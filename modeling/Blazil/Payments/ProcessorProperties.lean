import Blazil.Payments.Processor
import Blazil.Foundation.Entries

/-! How many transfers the engine commits for one idempotency key. -/

set_option autoImplicit false

namespace Blazil.Payments

open Foundation Foundation.System

def CallPhase.isActive : CallPhase → Bool
  | .returned _ => false
  | _ => true

def CallPhase.isUnanswered : CallPhase → Bool
  | .building | .executing _ | .submitting _ => true
  | _ => false

theorem CallPhase.isActive_of_isUnanswered {phase : CallPhase} (waiting : phase.isUnanswered = true) : phase.isActive = true := by
  cases phase with
  | returned => cases waiting
  | _ => rfl

def SubmitReply.isFailed : SubmitReply → Bool
  | .failed _ => true
  | _ => false

namespace Processor

def transfersFor (processor : Processor) (key : String) : Nat :=
  processor.transfers.countP fun transfer => transfer.1 = key

def At (processor : Processor) (key : String) (index : Nat) (phase : CallPhase) : Prop :=
  ∃ request, processor.calls[index]? = some ⟨request, phase⟩ ∧ request.idempotencyKey = key

/-- The conditions on steps that concern one key: its calls do not overlap, an engine
call that fails has not committed, and the key's entry is not expired when it is read
or when the cleanup runs. -/
def Careful (key : String) (processor : Processor) : ProcessorLabel → Prop
  | .begin request => request.idempotencyKey = key →
      ∀ call ∈ processor.calls, call.request.idempotencyKey = key → call.phase.isActive = false
  | .get index => ∀ call ∈ processor.calls[index]?, call.request.idempotencyKey = key →
      ∀ entry ∈ processor.store.entries key, processor.store.isExpired processor.now entry = false
  | .execute index applied failure => ∀ call ∈ processor.calls[index]?,
      call.request.idempotencyKey = key → failure.isSome = true → applied = false
  | .submit index applied reply => ∀ call ∈ processor.calls[index]?,
      call.request.idempotencyKey = key → reply.isFailed = true → applied = false
  | .cleanup =>
    ∀ entry ∈ processor.store.entries key, processor.store.isExpired processor.now entry = false
  | _ => True

instance (key : String) (processor : Processor) (label : ProcessorLabel) : Decidable (Careful key processor label) :=
  match label with
  | .begin _ => inferInstanceAs (Decidable (_ → ∀ call ∈ processor.calls, _))
  | .get index => inferInstanceAs (Decidable (∀ call ∈ processor.calls[index]?, _ → ∀ entry ∈ _, _))
  | .execute index _ _ | .submit index _ _ =>
    inferInstanceAs (Decidable (∀ call ∈ processor.calls[index]?, _ → _ → _))
  | .cleanup => inferInstanceAs (Decidable (∀ entry ∈ processor.store.entries key, _))
  | .expire _ | .build _ _ | .set _ | .save _ _ | .wait _ => .isTrue trivial

variable {processor : Processor} {key : String} {index : Nat} {next phase before : CallPhase}
variable {other : Nat} {otherKey : String} {changed : Processor}

theorem at_setPhase (present : (processor.setPhase index next).At key other phase) :
    other = index ∧ phase = next ∨ other ≠ index ∧ processor.At key other phase := by
  obtain ⟨request, found, same⟩ := present
  rcases entry_of_modify found with ⟨own, _, _, changed⟩ | ⟨different, kept⟩
  · cases changed
    exact .inl ⟨own, rfl⟩
  · exact .inr ⟨different, request, kept, same⟩

theorem at_setPhase_other (different : other ≠ index) (present : processor.At key other phase) :
    (processor.setPhase index next).At key other phase := by
  obtain ⟨request, found, same⟩ := present
  refine ⟨request, ?_, same⟩
  rw [setPhase_calls, List.getElem?_modify, found]
  simp [Ne.symm different]

theorem at_setPhase_self (next : CallPhase) (present : processor.At key index phase) :
    (processor.setPhase index next).At key index next := by
  obtain ⟨request, found, same⟩ := present
  refine ⟨request, ?_, same⟩
  rw [setPhase_calls, List.getElem?_modify, found]
  simp

theorem At.unique {first second : CallPhase} (present : processor.At key index first)
    (again : processor.At otherKey index second) : key = otherKey ∧ first = second := by
  obtain ⟨_, found, same⟩ := present
  obtain ⟨_, foundAgain, sameAgain⟩ := again
  rw [found] at foundAgain
  cases foundAgain
  exact ⟨same.symm.trans sameAgain, rfl⟩

/-- What holds for a key while the steps are careful. A transfer that was committed is
remembered in the store, or its call is about to put it there. -/
structure OnceFor (key : String) (processor : Processor) : Prop where
  single : ∀ first second phase other, processor.At key first phase →
    processor.At key second other → phase.isActive = true → other.isActive = true → first = second
  unanswered : ∀ index phase, processor.At key index phase → phase.isUnanswered = true → processor.transfersFor key = 0
  unexpired : ∀ index, ¬processor.At key index .expiring
  remembered : processor.transfersFor key = 0 ∨ processor.transfersFor key = 1 ∧
    ((processor.store.entries key).isSome = true ∨ ∃ index payment, processor.At key index (.storing payment))

theorem onceFor_started (key : String) (ttl : Nat) : OnceFor key (started ttl) := by
  constructor <;> simp [started, At, transfersFor]

theorem OnceFor.congr {next : Processor} (once : OnceFor key processor)
    (calls : ∀ index phase, next.At key index phase ↔ processor.At key index phase)
    (entries : (next.store.entries key).isSome = (processor.store.entries key).isSome)
    (transfers : next.transfersFor key = processor.transfersFor key) : OnceFor key next := by
  constructor
  · intro first second phase other
    rw [calls, calls]
    exact once.single first second phase other
  · intro index phase
    rw [calls, transfers]
    exact once.unanswered index phase
  · intro index
    rw [calls]
    exact once.unexpired index
  · simpa only [calls, entries, transfers] using once.remembered

private theorem OnceFor.elsewhere (next : CallPhase) (once : OnceFor key processor)
    (present : processor.At otherKey index before) (different : otherKey ≠ key) (calls : changed.calls = processor.calls)
    (entries : (changed.store.entries key).isSome = (processor.store.entries key).isSome)
    (transfers : changed.transfersFor key = processor.transfersFor key) : OnceFor key (changed.setPhase index next) := by
  have sameCalls : ∀ keyAt other phase, changed.At keyAt other phase ↔ processor.At keyAt other phase := by
    intro keyAt other phase
    rw [At, calls, At]
  refine once.congr (fun other phase => ⟨fun moved => ?_, fun still => ?_⟩) entries transfers
  · rcases at_setPhase moved with ⟨rfl, rfl⟩ | ⟨_, still⟩
    · have own := at_setPhase_self phase ((sameCalls _ _ _).mpr present)
      exact absurd (own.unique moved).1 different
    · exact (sameCalls _ _ _).mp still
  · refine at_setPhase_other ?_ ((sameCalls _ _ _).mpr still)
    intro same
    subst same
    exact different (present.unique still).1

private theorem OnceFor.advance (once : OnceFor key processor) (present : processor.At key index before)
    (active : before.isActive = true) (calls : changed.calls = processor.calls) (clean : next ≠ .expiring)
    (unanswered : next.isUnanswered = true → changed.transfersFor key = 0)
    (remembered : changed.transfersFor key = 0 ∨ changed.transfersFor key = 1 ∧
      ((changed.store.entries key).isSome = true ∨ ∃ payment, next = .storing payment)) :
    OnceFor key (changed.setPhase index next) := by
  have sameCalls : ∀ other phase, changed.At key other phase ↔ processor.At key other phase := by
    intro other phase
    rw [At, calls, At]
  have alone : ∀ other phase, (changed.setPhase index next).At key other phase →
      phase.isActive = true → other = index ∧ phase = next := by
    intro other phase moved otherActive
    rcases at_setPhase moved with here | ⟨different, still⟩
    · exact here
    · exact absurd (once.single other index phase before ((sameCalls _ _).mp still) present otherActive active) different
  constructor
  · intro first second phase other firstAt secondAt firstActive secondActive
    rw [(alone _ _ firstAt firstActive).1, (alone _ _ secondAt secondActive).1]
  · intro other phase moved waiting
    rw [(alone _ _ moved (CallPhase.isActive_of_isUnanswered waiting)).2] at waiting
    exact unanswered waiting
  · intro other moved
    exact clean (alone _ _ moved rfl).2.symm
  · rcases remembered with none | ⟨one, stored | ⟨payment, rfl⟩⟩
    · exact .inl none
    · exact .inr ⟨one, .inl stored⟩
    · exact .inr ⟨one, .inr ⟨index, payment, at_setPhase_self _ ((sameCalls _ _).mpr present)⟩⟩

theorem transfersFor_recordTransfer (processor : Processor) (key otherKey : String) (payment : Payment) (applied : Bool) :
    (processor.recordTransfer otherKey payment applied).transfersFor key =
      processor.transfersFor key + if otherKey = key ∧ applied = true then 1 else 0 := by
  unfold transfersFor
  cases applied with
  | false => simp
  | true => simp [List.countP_cons]

variable {request : ProcessPaymentRequest}

section

variable (once : OnceFor key processor)
include once

theorem OnceFor.stored (present : processor.At key index phase) (active : phase.isActive = true)
    (elsewhere : ∀ payment, phase ≠ .storing payment) :
    processor.transfersFor key = 0 ∨ processor.transfersFor key = 1 ∧ (processor.store.entries key).isSome = true := by
  rcases once.remembered with none | ⟨one, stored | ⟨other, payment, storing⟩⟩
  · exact .inl none
  · exact .inr ⟨one, stored⟩
  · have same := once.single index other _ _ present storing active rfl
    rw [same] at present
    exact absurd (present.unique storing).2 (elsewhere payment)

theorem OnceFor.nothing_committed (present : processor.At key index .looking)
    (missing : processor.store.entries key = none) : processor.transfersFor key = 0 := by
  rcases once.stored present rfl (by simp) with none | ⟨_, stored⟩
  · exact none
  · rw [missing] at stored
    cases stored

variable {payment : Payment} {applied : Bool}

private theorem OnceFor.answered (present : processor.At key index before) (waiting : before.isUnanswered = true)
    (clean : next ≠ .expiring) (done : next.isUnanswered = false) (kept : applied = true → ∃ stored, next = .storing stored) :
    OnceFor key ((processor.recordTransfer key payment applied).setPhase index next) := by
  have count := processor.transfersFor_recordTransfer key key payment applied
  rw [once.unanswered index before present waiting, Nat.zero_add] at count
  refine once.advance present (CallPhase.isActive_of_isUnanswered waiting) rfl clean (fun still => ?_) ?_
  · rw [done] at still
    cases still
  · cases applied with
    | false => exact .inl (by simpa using count)
    | true => exact .inr ⟨by simpa using count, .inr (kept rfl)⟩

private theorem OnceFor.engineCall
    (found : processor.calls[index]? = some ⟨request, before⟩) (waiting : before.isUnanswered = true) (clean : next ≠ .expiring)
    (done : next.isUnanswered = false) (kept : request.idempotencyKey = key → applied = true → ∃ stored, next = .storing stored) :
    OnceFor key ((processor.recordTransfer request.idempotencyKey payment applied).setPhase index next) := by
  have present : processor.At request.idempotencyKey index before := ⟨request, found, rfl⟩
  by_cases own : request.idempotencyKey = key
  · rw [own] at present ⊢
    exact once.answered present waiting clean done (kept own)
  · refine once.elsewhere _ present own rfl rfl ?_
    simp [transfersFor_recordTransfer, own]

end

theorem prepare_ne_expiring (collaborators : Collaborators) (payment : Payment) : collaborators.prepare payment ≠ .expiring := by
  unfold Collaborators.prepare
  dsimp only
  repeat' split
  all_goals simp

private theorem onceFor_begin (once : OnceFor key processor) (careful : Careful key processor (.begin request)) :
    OnceFor key { processor with calls := processor.calls ++ [⟨request, .looking⟩] } := by
  have old : ∀ {index phase}, processor.At key index phase →
      Processor.At { processor with calls := processor.calls ++ [⟨request, .looking⟩] }
        key index phase := by
    intro index phase present
    obtain ⟨owner, found, same⟩ := present
    refine ⟨owner, ?_, same⟩
    rw [List.getElem?_append_left (entry_lt found), found]
  have back : ∀ {index phase}, Processor.At
      { processor with calls := processor.calls ++ [⟨request, .looking⟩] } key index phase →
        processor.At key index phase ∨ index = processor.calls.length ∧ phase = .looking ∧ request.idempotencyKey = key := by
    intro index phase present
    obtain ⟨owner, found, same⟩ := present
    rcases entry_of_concat found with ⟨_, earlier⟩ | ⟨position, new⟩
    · exact .inl ⟨owner, earlier, same⟩
    · cases new
      exact .inr ⟨position, rfl, same⟩
  have idle : request.idempotencyKey = key → ∀ {index phase}, processor.At key index phase → phase.isActive = false := by
    intro own index phase present
    obtain ⟨_, found, same⟩ := present
    exact careful own _ (List.mem_of_getElem? found) same
  constructor
  · intro first second phase other firstAt secondAt firstActive secondActive
    rcases back firstAt with firstOld | ⟨firstNew, _, own⟩
    · rcases back secondAt with secondOld | ⟨_, _, own⟩
      · exact once.single first second phase other firstOld secondOld firstActive secondActive
      · rw [idle own firstOld] at firstActive
        cases firstActive
    · rcases back secondAt with secondOld | ⟨secondNew, _⟩
      · rw [idle own secondOld] at secondActive
        cases secondActive
      · exact firstNew.trans secondNew.symm
  · intro index phase present waiting
    rcases back present with still | ⟨_, rfl, _⟩
    · exact once.unanswered index phase still waiting
    · cases waiting
  · intro index present
    rcases back present with still | ⟨_, new, _⟩
    · exact once.unexpired index still
    · cases new
  · refine once.remembered.imp id (And.imp id (Or.imp id ?_))
    intro about
    obtain ⟨index, payment, storing⟩ := about
    exact ⟨index, payment, old storing⟩

theorem OnceFor.step {collaborators next label} (once : OnceFor key processor)
    (careful : Careful key processor label) (stepped : processor.step collaborators label = some next) : OnceFor key next := by
  cases step_moves stepped with
  | begin => exact onceFor_begin once careful
  | @get index request found =>
    have present : processor.At request.idempotencyKey index .looking := ⟨request, found, rfl⟩
    by_cases own : request.idempotencyKey = key
    · rw [own] at present ⊢
      have fresh := careful _ found own
      unfold afterGet
      cases stored : processor.store.entries key with
      | none =>
        have none := once.nothing_committed present stored
        exact once.advance present rfl rfl (by simp) (fun _ => none) (.inl none)
      | some entry =>
        have unexpired := fresh entry stored
        simp only [unexpired, Bool.false_eq_true, ↓reduceIte]
        refine once.advance present rfl rfl (by simp) (by simp [CallPhase.isUnanswered]) ?_
        refine once.remembered.imp id (And.imp id fun _ => .inl ?_)
        rw [stored]
        rfl
    · exact once.elsewhere _ present own rfl rfl rfl
  | @expire index request found =>
    have present : processor.At request.idempotencyKey index .expiring := ⟨request, found, rfl⟩
    by_cases own : request.idempotencyKey = key
    · rw [own] at present
      exact absurd present (once.unexpired index)
    · refine once.elsewhere _ present own rfl ?_ rfl
      simp [IdempotencyStore.delete, Ne.symm own]
  | @build index _ request found =>
    have present : processor.At request.idempotencyKey index .building := ⟨request, found, rfl⟩
    by_cases own : request.idempotencyKey = key
    · rw [own] at present
      have none := once.unanswered index .building present rfl
      exact once.advance present rfl rfl (prepare_ne_expiring _ _) (fun _ => none) (.inl none)
    · exact once.elsewhere _ present own rfl rfl rfl
  | @execute _ _ failure _ _ found =>
    refine once.engineCall found rfl ?_ ?_ fun own committed => ?_
    · cases failure <;> simp [afterExecute]
    · cases failure <;> rfl
    · cases failure with
      | none => exact ⟨_, rfl⟩
      | some =>
        rw [careful _ found own rfl] at committed
        cases committed
  | @submit _ _ reply _ _ found =>
    refine once.engineCall found rfl ?_ ?_ fun own committed => ?_
    · cases reply <;> simp [afterSubmit]
    · cases reply <;> rfl
    · cases reply with
      | committed | rejected => exact ⟨_, rfl⟩
      | failed =>
        rw [careful _ found own rfl] at committed
        cases committed
  | @set index request payment found =>
    have present : processor.At request.idempotencyKey index (.storing payment) :=
      ⟨request, found, rfl⟩
    by_cases own : request.idempotencyKey = key
    · rw [own] at present
      refine once.advance present rfl rfl (by simp) (by simp [CallPhase.isUnanswered]) ?_
      refine once.remembered.imp id (And.imp id fun _ => .inl ?_)
      simp [IdempotencyStore.set, own]
    · refine once.elsewhere _ present own rfl ?_ rfl
      simp [IdempotencyStore.set, Ne.symm own]
  | @save index _ request payment found =>
    have present : processor.At request.idempotencyKey index (.saving payment) :=
      ⟨request, found, rfl⟩
    by_cases own : request.idempotencyKey = key
    · rw [own] at present
      refine once.advance present rfl rfl (by simp) (by simp [CallPhase.isUnanswered]) ?_
      exact (once.stored present rfl (by simp)).imp id (And.imp id .inl)
    · exact once.elsewhere _ present own rfl rfl rfl
  | cleanup =>
    refine once.congr (fun _ _ => Iff.rfl) ?_ rfl
    simp only [setStore_store, IdempotencyStore.evictExpired]
    cases stored : processor.store.entries key with
    | none => rfl
    | some entry => simp [careful entry stored]
  | wait => exact once.congr (fun _ _ => Iff.rfl) rfl rfl

/-- In a careful run the engine commits at most one transfer for the key. -/
theorem transfersFor_le_one {collaborators : Collaborators} {key : String} {ttl : Nat} {state : Processor}
    (reached : (system collaborators).Reaches (Careful key) (started ttl) state) : state.transfersFor key ≤ 1 := by
  have once := reached.invariant (OnceFor key) (onceFor_started key ttl)
    fun _ _ _ careful stepped once => once.step careful stepped
  rcases once.remembered with none | ⟨one, _⟩
  · rw [none]
    exact Nat.zero_le 1
  · exact Nat.le_of_eq one

def permissive : Collaborators := ⟨fun _ => ⟨true, ""⟩, fun _ => .ok .internal, none, false⟩

def orderPayment : ProcessPaymentRequest where
  idempotencyKey := "order-7"
  debitAccountId := "1"
  creditAccountId := "2"
  amount := ⟨1050, "USD"⟩
  ledgerId := 1

/-- Both calls look the key up before either has stored its payment. -/
theorem concurrentCalls_two_transfers : ∃ state, (system permissive).Reachable (started 86400) state ∧
      state.transfersFor "order-7" = 2 :=
  exists_reachable_of_run _ _ [.begin orderPayment, .begin orderPayment, .get 0, .get 1,
    .build 0 "p0", .build 1 "p1", .submit 0 true .committed, .submit 1 true .committed] _
    (by decide)

/-- A retry after the first call has returned finds the stored payment. -/
theorem laterRetry_one_transfer : ∃ state, (system permissive).Reaches (Careful "order-7") (started 86400) state ∧
      state.calls.length = 2 ∧ state.transfersFor "order-7" ≤ 1 := by
  obtain ⟨state, reached, both⟩ := exists_reaches_of_run (system permissive) (Careful "order-7")
    (started 86400) [.begin orderPayment, .get 0, .build 0 "p0", .submit 0 true .committed, .set 0,
      .save 0 none, .begin orderPayment, .get 1]
    (fun state => state.calls.length = 2) (by decide) (by decide)
  exact ⟨state, reached, both, transfersFor_le_one reached⟩

end Processor

end Blazil.Payments
