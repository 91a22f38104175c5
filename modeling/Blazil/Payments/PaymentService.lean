import Blazil.Foundation.Entries
import Blazil.Payments.Processor
import Blazil.Transport.Connection

/-! The processor with the store of its payments (`services/payments/internal/lifecycle/store.go`)
and with what the engine client makes of a response
(`services/payments/internal/engine/client.go`), and what becomes of a payment that the engine
rejects. Failures of the connection itself are among the replies that the processor's environment
chooses. -/

set_option autoImplicit false

namespace Blazil.Payments

open Blazil.Transport Foundation

/-- What `sendReceive` returns once the response has been decoded: the committed flag and
the transfer id, or an error if the response names one. -/
def sendReceive (response : TransactionResponse) : Except String (Bool × String) :=
  match response.error with
  | some reason => .error ("server error: " ++ reason)
  | none => .ok (response.committed, response.transferId.getD "")

def submit (response : TransactionResponse) : Except String (Bool × String) :=
  (sendReceive response).mapError fun reason => "engine client: " ++ reason

def submitReply (response : TransactionResponse) : SubmitReply :=
  match submit response with
  | .error reason => .failed reason
  | .ok (true, _) => .committed
  | .ok (false, _) => .rejected

structure InMemoryPaymentStore where
  byId : String → Option Payment
  byIdempotency : String → Option Payment

def InMemoryPaymentStore.save (store : InMemoryPaymentStore) (payment : Payment) : InMemoryPaymentStore where
  byId id := if id = payment.id then some payment else store.byId id
  byIdempotency key :=
    if payment.idempotencyKey ≠ "" ∧ key = payment.idempotencyKey then some payment
    else store.byIdempotency key

/-- The processor, the payments it has saved, and the payment ids drawn so far. -/
structure PaymentService where
  processor : Processor
  store : InMemoryPaymentStore
  drawn : List String

namespace PaymentService

def started (ttl : Nat) : PaymentService := ⟨.started ttl, ⟨fun _ => none, fun _ => none⟩, []⟩

def storeAfter (service : PaymentService) : ProcessorLabel → InMemoryPaymentStore
  | .save index _ =>
    match service.processor.calls[index]? with
    | some ⟨_, .saving payment⟩ => service.store.save payment
    | _ => service.store
  | _ => service.store

def drawnAfter (service : PaymentService) : ProcessorLabel → List String
  | .build _ paymentId => paymentId :: service.drawn
  | _ => service.drawn

/-- The steps of the processor; a save never fails. -/
def step (collaborators : Collaborators) (service : PaymentService) (label : ProcessorLabel) : Option PaymentService :=
  match label with
  | .save _ (some _) => none
  | label =>
    (service.processor.step collaborators label).map fun processor =>
      ⟨processor, service.storeAfter label, service.drawnAfter label⟩

def system (collaborators : Collaborators) : System PaymentService ProcessorLabel :=
  ⟨step collaborators⟩

def FreshIds (service : PaymentService) : ProcessorLabel → Prop
  | .build _ paymentId => paymentId ∉ service.drawn
  | _ => True

instance (service : PaymentService) (label : ProcessorLabel) : Decidable (FreshIds service label) :=
  match label with
  | .build _ paymentId => inferInstanceAs (Decidable (paymentId ∉ service.drawn))
  | .begin _ | .get _ | .expire _ | .execute _ _ _ | .submit _ _ _ | .set _ | .save _ _ | .cleanup
  | .wait _ => .isTrue trivial

theorem step_moves {collaborators : Collaborators} {service next : PaymentService}
    {label : ProcessorLabel} (stepped : service.step collaborators label = some next) :
    Processor.Moves collaborators service.processor label next.processor ∧
      next.store = service.storeAfter label ∧ next.drawn = service.drawnAfter label := by
  have projected : ∃ processor, service.processor.step collaborators label = some processor ∧
      next = ⟨processor, service.storeAfter label, service.drawnAfter label⟩ := by
    unfold step at stepped
    split at stepped
    · cases stepped
    · obtain ⟨processor, moved, made⟩ := Option.map_eq_some_iff.mp stepped
      exact ⟨processor, moved, made.symm⟩
  obtain ⟨_, moved, rfl⟩ := projected
  exact ⟨Processor.step_moves moved, rfl, rfl⟩

end PaymentService

open Blazil.Common Blazil.Transport Foundation Foundation.System

variable {collaborators : Collaborators} {label : ProcessorLabel} {phase : CallPhase} {id : String} {index : Nat}

def CallPhase.carried : CallPhase → Option String
  | .executing payment | .submitting payment | .storing payment | .saving payment =>
    some payment.id
  | .looking | .expiring | .building | .returned _ => none

def CallPhase.awaited : CallPhase → Option String
  | .executing payment | .submitting payment => some payment.id
  | .looking | .expiring | .building | .storing _ | .saving _ | .returned _ => none

def CallPhase.errorText : CallPhase → Option String
  | .returned (.error text) => some text
  | _ => none

variable {payment : Payment}

theorem CallPhase.carried_of_awaited {phase : CallPhase} (awaited : phase.awaited = some id) : phase.carried = some id := by
  cases phase with
  | executing | submitting => exact awaited
  | looking | expiring | building | storing | saving | returned => cases awaited

theorem carried_prepare {collaborators : Collaborators}
    (carried : (collaborators.prepare payment).carried = some id) : payment.id = id := by
  unfold Collaborators.prepare at carried
  dsimp only at carried
  split at carried
  · split at carried
    · cases carried
    · split at carried
      · exact Option.some.inj carried
      · split at carried <;> exact Option.some.inj carried
  · exact Option.some.inj carried

theorem carried_afterExecute {failure}
    (carried : (afterExecute payment failure).carried = some id) : payment.id = id := by
  cases failure with
  | none => exact Option.some.inj carried
  | some => cases carried

theorem awaited_afterExecute (payment : Payment) (failure : Option String) : (afterExecute payment failure).awaited = none := by
  cases failure <;> rfl

theorem carried_afterSubmit {reply} (carried : (afterSubmit payment reply).carried = some id) : payment.id = id := by
  cases reply with
  | failed => cases carried
  | committed | rejected => exact Option.some.inj carried

theorem awaited_afterSubmit (payment : Payment) (reply : SubmitReply) : (afterSubmit payment reply).awaited = none := by
  cases reply <;> rfl

theorem carried_afterGet (processor : Processor) (key : String) : (processor.afterGet key).carried = none := by
  unfold Processor.afterGet
  split
  · rfl
  · split <;> rfl

theorem awaited_afterGet (processor : Processor) (key : String) : (processor.afterGet key).awaited = none := by
  unfold Processor.afterGet
  split
  · rfl
  · split <;> rfl

namespace Processor

variable {processor next : Processor}

def InPhase (processor : Processor) (index : Nat) (phase : CallPhase) : Prop :=
  ∃ request, processor.calls[index]? = some ⟨request, phase⟩

variable {request : ProcessPaymentRequest} {after : CallPhase}

theorem inPhase_setPhase {other : Nat} (present : (processor.setPhase index after).InPhase other phase) :
    other = index ∧ phase = after ∨ processor.InPhase other phase := by
  obtain ⟨request, found⟩ := present
  rcases entry_of_modify found with ⟨own, _, _, changed⟩ | ⟨_, kept⟩
  · cases changed
    exact .inl ⟨own, rfl⟩
  · exact .inr ⟨request, kept⟩

/-- A call carried this payment before the step, and waited for the engine with it if it
still does. -/
def Carried (processor : Processor) (index : Nat) (phase : CallPhase) (id : String) : Prop :=
  ∃ before, processor.InPhase index before ∧ before.carried = some id ∧ (phase.awaited = some id → before.awaited = some id)

theorem carried_setPhase {own : Nat} {was : CallPhase}
    (found : processor.calls[own]? = some ⟨request, was⟩) (kept : after.carried = some id → was.carried = some id)
    (answered : after.awaited = none) (present : (processor.setPhase own after).InPhase index phase)
    (carried : phase.carried = some id) : processor.Carried index phase id := by
  rcases inPhase_setPhase present with ⟨rfl, rfl⟩ | before
  · refine ⟨was, ⟨request, found⟩, kept carried, ?_⟩
    intro awaited
    rw [answered] at awaited
    cases awaited
  · exact ⟨phase, before, carried, fun awaited => awaited⟩

theorem carried_of_moves (moved : Moves collaborators processor label next) (present : next.InPhase index phase)
    (carried : phase.carried = some id) : processor.Carried index phase id ∨ label = .build index id := by
  cases moved with
  | begin =>
    obtain ⟨request, found⟩ := present
    rcases entry_of_concat found with ⟨_, earlier⟩ | ⟨_, new⟩
    · exact .inl ⟨phase, ⟨request, earlier⟩, carried, fun awaited => awaited⟩
    · cases new
      cases carried
  | get found =>
    refine .inl (carried_setPhase found ?_ (awaited_afterGet ..) present carried)
    rw [carried_afterGet]
    exact fun none => by cases none
  | expire found | save found =>
    refine .inl (carried_setPhase found ?_ rfl present carried)
    exact fun none => by cases none
  | build =>
    rcases inPhase_setPhase present with ⟨rfl, rfl⟩ | before
    · cases carried_prepare carried
      exact .inr rfl
    · exact .inl ⟨phase, before, carried, fun awaited => awaited⟩
  | execute found =>
    exact .inl (carried_setPhase found (fun same => congrArg some (carried_afterExecute same))
      (awaited_afterExecute ..) present carried)
  | submit found =>
    exact .inl (carried_setPhase found (fun same => congrArg some (carried_afterSubmit same))
      (awaited_afterSubmit ..) present carried)
  | set found =>
    refine .inl (carried_setPhase found ?_ rfl present carried)
    exact fun same => same
  | cleanup | wait => exact .inl ⟨phase, present, carried, fun awaited => awaited⟩

theorem returned_of_moves (moved : Moves collaborators processor label next) {result}
    (found : processor.calls[index]? = some ⟨request, .returned result⟩) :
    next.calls[index]? = some ⟨request, .returned result⟩ := by
  have kept : ∀ {own : Nat} {other : ProcessPaymentRequest} {was : CallPhase} (after : CallPhase),
      processor.calls[own]? = some ⟨other, was⟩ → was ≠ .returned result →
      (processor.setPhase own after).calls[index]? = some ⟨request, .returned result⟩ := by
    intro own other was after present active
    have different : own ≠ index := by
      intro same
      rw [same, found] at present
      cases present
      exact active rfl
    rw [setPhase_calls, List.getElem?_modify, found]
    simp [different]
  cases moved with
  | begin => rw [List.getElem?_append_left (entry_lt found), found]
  | get own | expire own | build own | execute own | submit own | set own | save own =>
    exact kept _ own nofun
  | cleanup | wait => exact found

theorem submitted_of_moves {applied reply}
    (moved : Moves collaborators processor (.submit index applied reply) next)
    (found : processor.calls[index]? = some ⟨request, .submitting payment⟩) :
    next.calls[index]? = some ⟨request, afterSubmit payment reply⟩ := by
  cases moved with
  | submit again =>
    cases found.symm.trans again
    simp [found]

theorem recorded_of_moves (moved : Moves collaborators processor label next) {key entry}
    (recorded : next.store.entries key = some entry) :
    processor.store.entries key = some entry ∨ ∃ index, processor.InPhase index (.storing entry.payment) := by
  cases moved with
  | begin | get | build | execute | submit | save | wait => exact .inl recorded
  | expire =>
    simp only [setPhase_store, setStore_store, IdempotencyStore.delete] at recorded
    split at recorded
    · cases recorded
    · exact .inl recorded
  | @set index request _ found =>
    simp only [setPhase_store, setStore_store, IdempotencyStore.set] at recorded
    split at recorded
    · cases recorded
      exact .inr ⟨index, request, found⟩
    · exact .inl recorded
  | cleanup => exact .inl (Option.filter_eq_some_iff.mp recorded).1

end Processor

namespace PaymentService

structure Unstored (id : String) (service : PaymentService) : Prop where
  byId : service.store.byId id = none
  byKey : ∀ key payment, service.store.byIdempotency key = some payment → payment.id ≠ id
  recorded : ∀ key entry, service.processor.store.entries key = some entry → entry.payment.id ≠ id

section Steps

variable {service next : PaymentService} {id : String}

theorem storeAfter_cases (service : PaymentService) (label : ProcessorLabel) :
    service.storeAfter label = service.store ∨ ∃ index payment, service.processor.InPhase index (.saving payment) ∧
        service.storeAfter label = service.store.save payment := by
  unfold storeAfter
  split
  · split
    · next index _ _ request payment found =>
      exact .inr ⟨index, payment, ⟨request, found⟩, rfl⟩
    · exact .inl rfl
  · exact .inl rfl

theorem Unstored.step (unstored : Unstored id service) (waiting : ∀ index phase, service.processor.InPhase index phase →
      phase.carried = some id → phase.awaited = some id)
    (stepped : service.step collaborators label = some next) : Unstored id next := by
  obtain ⟨moved, store, _⟩ := step_moves stepped
  have recorded : ∀ key entry, next.processor.store.entries key = some entry → entry.payment.id ≠ id := by
    intro key entry present same
    rcases Processor.recorded_of_moves moved present with before | ⟨index, storing⟩
    · exact unstored.recorded key entry before same
    · cases waiting index _ storing (congrArg some same)
  rcases service.storeAfter_cases label with kept | ⟨index, payment, saving, saved⟩
  · rw [kept] at store
    exact ⟨store ▸ unstored.byId, store ▸ unstored.byKey, recorded⟩
  · have other : payment.id ≠ id := by
      intro same
      cases waiting index _ saving (congrArg some same)
    rw [saved] at store
    refine ⟨?_, ?_, recorded⟩
    · simp only [store, InMemoryPaymentStore.save, Ne.symm other, if_false]
      exact unstored.byId
    · intro key stored present
      simp only [store, InMemoryPaymentStore.save] at present
      split at present
      · cases present
        exact other
      · exact unstored.byKey key stored present

/-- While an id is not drawn, nothing has it; and the payment that a call waits for the
engine with is that call's alone. -/
structure Separate (id : String) (service : PaymentService) : Prop where
  undrawn : id ∉ service.drawn → Unstored id service ∧
    ∀ index phase, service.processor.InPhase index phase → phase.carried ≠ some id
  sole : ∀ index phase, service.processor.InPhase index phase → phase.awaited = some id → Unstored id service ∧
      ∀ other second, service.processor.InPhase other second → second.carried = some id → other = index

theorem separate_started (id : String) (ttl : Nat) : Separate id (started ttl) := by
  have nothing : Unstored id (started ttl) :=
    ⟨rfl, (fun _ _ found => by cases found), (fun _ _ found => by cases found)⟩
  have nobody : ∀ index phase, ¬ (started ttl).processor.InPhase index phase := by
    intro index phase present
    obtain ⟨_, found⟩ := present
    simp [started, Processor.started] at found
  exact ⟨fun _ => ⟨nothing, fun index phase present => absurd present (nobody index phase)⟩,
    fun index phase present => absurd present (nobody index phase)⟩

theorem Separate.drawn_of_carried (separate : Separate id service)
    (present : service.processor.InPhase index phase) (carried : phase.carried = some id) : id ∈ service.drawn := by
  by_contra undrawn
  exact (separate.undrawn undrawn).2 index phase present carried

theorem mem_drawn_of_step (stepped : service.step collaborators label = some next)
    (drawn : id ∈ service.drawn) : id ∈ next.drawn := by
  obtain ⟨_, _, after⟩ := step_moves stepped
  rw [after]
  unfold drawnAfter
  split
  · exact List.mem_cons_of_mem _ drawn
  · exact drawn

theorem Separate.alone (separate : Separate id service)
    (present : service.processor.InPhase index phase) (awaited : phase.awaited = some id) {other : Nat} {second : CallPhase}
    (also : service.processor.InPhase other second) (carried : second.carried = some id) : second = phase := by
  cases (separate.sole index phase present awaited).2 other second also carried
  obtain ⟨_, found⟩ := present
  obtain ⟨_, again⟩ := also
  cases found.symm.trans again
  rfl

theorem Separate.step (separate : Separate id service) (fresh : FreshIds service label)
    (stepped : service.step collaborators label = some next) : Separate id next := by
  obtain ⟨moved, _, drawn⟩ := step_moves stepped
  constructor
  · intro undrawn
    have before : id ∉ service.drawn := fun known => undrawn (mem_drawn_of_step stepped known)
    obtain ⟨unstored, nobody⟩ := separate.undrawn before
    refine ⟨unstored.step (fun index phase present carried =>
      absurd carried (nobody index phase present)) stepped, ?_⟩
    intro index phase present carried
    rcases Processor.carried_of_moves moved present carried with ⟨was, here, held, _⟩ | built
    · exact nobody index was here held
    · subst built
      exact undrawn (drawn ▸ List.mem_cons_self)
  · intro index phase present awaited
    rcases Processor.carried_of_moves moved present (CallPhase.carried_of_awaited awaited) with
      ⟨was, here, held, waited⟩ | built
    · obtain ⟨unstored, only⟩ := separate.sole index was here (waited awaited)
      refine ⟨unstored.step (fun other second also carried => ?_) stepped, ?_⟩
      · rw [separate.alone here (waited awaited) also carried]
        exact waited awaited
      · intro other second also carried
        rcases Processor.carried_of_moves moved also carried with ⟨old, there, holds, _⟩ | built
        · exact only other old there holds
        · subst built
          exact absurd (separate.drawn_of_carried here held) fresh
    · subst built
      obtain ⟨unstored, nobody⟩ := separate.undrawn fresh
      refine ⟨unstored.step (fun other second also carried =>
        absurd carried (nobody other second also)) stepped, ?_⟩
      intro other second also carried
      rcases Processor.carried_of_moves moved also carried with ⟨old, there, holds, _⟩ | same
      · exact absurd holds (nobody other old there)
      · cases same
        rfl

/-- The id has been used up: nobody works on its payment and no store holds it. -/
structure Lost (id : String) (service : PaymentService) : Prop where
  drawn : id ∈ service.drawn
  unstored : Unstored id service
  nobody : ∀ index phase, service.processor.InPhase index phase → phase.carried ≠ some id

theorem Lost.step (lost : Lost id service) (fresh : FreshIds service label)
    (stepped : service.step collaborators label = some next) : Lost id next := by
  obtain ⟨moved, _⟩ := step_moves stepped
  refine ⟨mem_drawn_of_step stepped lost.drawn, lost.unstored.step ?_ stepped, ?_⟩
  · intro index phase present carried
    exact absurd carried (lost.nobody index phase present)
  intro index phase present carried
  rcases Processor.carried_of_moves moved present carried with ⟨was, here, held, _⟩ | built
  · exact lost.nobody index was here held
  · subst built
    exact fresh lost.drawn

end Steps

def rejectionError (payment : Payment) (reason : BlazerError) : String :=
  "engine submission failed for payment " ++ payment.id ++ ": " ++
    ("engine client: " ++ ("server error: " ++ reason.message))

theorem afterSubmit_rejected [ExternalCrates] (payment : Payment) (requestId : String) (reason : BlazerError) :
    afterSubmit payment (submitReply (buildResponse requestId (.rejected reason))) =
      .returned (.error (rejectionError payment reason)) :=
  rfl

/-- When the engine rejects a payment, `Process` returns an error, and the payment is never
saved nor recorded for its key. -/
theorem rejectedPayment_lost [ExternalCrates] {collaborators : Collaborators} {ttl index : Nat}
    {service next later : PaymentService} {request : ProcessPaymentRequest} {payment : Payment} {applied : Bool}
    {reason : BlazerError} (reached : (system collaborators).Reaches FreshIds (started ttl) service)
    (found : service.processor.calls[index]? = some ⟨request, .submitting payment⟩)
    (answered : service.step collaborators (.submit index applied
      (submitReply (buildResponse payment.id (.rejected reason)))) = some next)
    (onward : (system collaborators).Reaches FreshIds next later) :
    later.processor.calls[index]? = some ⟨request, .returned (.error (rejectionError payment reason))⟩ ∧
      Unstored payment.id later := by
  have separate : Separate payment.id service :=
    reached.invariant (Separate payment.id) (separate_started payment.id ttl)
      fun _ _ _ fresh stepped separate => separate.step fresh stepped
  have waiting : service.processor.InPhase index (.submitting payment) := ⟨request, found⟩
  obtain ⟨unstored, only⟩ := separate.sole index _ waiting rfl
  obtain ⟨moved, _⟩ := step_moves answered
  have returned := Processor.submitted_of_moves moved found
  rw [afterSubmit_rejected] at returned
  have lost : Lost payment.id next := by
    refine ⟨mem_drawn_of_step answered (separate.drawn_of_carried waiting rfl),
      unstored.step (fun other second also carried => ?_) answered, ?_⟩
    · rw [separate.alone waiting rfl also carried]
      rfl
    · intro other phase present carried
      rcases Processor.carried_of_moves moved present carried with ⟨was, here, held, _⟩ | built
      · -- only the rejected call carried the payment, and it has returned
        cases only other was here held
        obtain ⟨_, again⟩ := present
        cases returned.symm.trans again
        cases carried
      · cases built
  have lasting : Lost payment.id later ∧ later.processor.calls[index]? =
      some ⟨request, .returned (.error (rejectionError payment reason))⟩ :=
    onward.invariant (fun state => Lost payment.id state ∧ state.processor.calls[index]? = _)
      ⟨lost, returned⟩ fun _ _ _ fresh stepped holds =>
        ⟨holds.1.step fresh stepped, Processor.returned_of_moves (step_moves stepped).1 holds.2⟩
  exact ⟨lasting.2, lasting.1.unstored⟩

def approving : Collaborators := ⟨fun _ => ⟨true, ""⟩, fun _ => .ok .internal, none, false⟩

/-- A payment between two names of one account, which the validation stage rejects. -/
def selfPayment : ProcessPaymentRequest := ⟨"order-7", "1", "01", ⟨1050, "USD"⟩, 1, []⟩

def sameAccount : BlazerError :=
  .validationError "debit_account_id must not equal credit_account_id"

/-- The rejected payment is neither saved nor recorded. -/
theorem selfPayment_unsaved : ∃ service, (system approving).Reachable (started 10) service ∧
      service.processor.calls.map (·.phase.errorText) =
        [some ("engine submission failed for payment pay-1: engine client: server error: " ++
          "Validation failed: debit_account_id must not equal credit_account_id")] ∧
      service.store.byId "pay-1" = none ∧ (service.processor.store.entries "order-7").isNone = true :=
  exists_reachable_of_run _ _ [.begin selfPayment, .get 0, .build 0 "pay-1",
    .submit 0 false (submitReply (@buildResponse referenceCrates "pay-1" (.rejected sameAccount)))]
    _ (by decide)

/-- The payment stays lost however the run goes on. -/
theorem selfPayment_lost : ∃ service next, (system approving).Reaches FreshIds (started 10) service ∧
      service.step approving (.submit 0 false (submitReply
        (@buildResponse referenceCrates "pay-1" (.rejected sameAccount)))) = some next ∧
      ∀ later, (system approving).Reaches FreshIds next later → Unstored "pay-1" later := by
  have executed : (system approving).run (started 10)
      [.begin selfPayment, .get 0, .build 0 "pay-1"] = some ⟨⟨⟨fun _ => none, 10⟩, 0, [⟨selfPayment, .submitting
          { newPayment selfPayment "pay-1" with status := .authorized }⟩], []⟩,
          ⟨fun _ => none, fun _ => none⟩, ["pay-1"]⟩ := rfl
  have reached : (system approving).Reaches FreshIds (started 10) _ :=
    reaches_of_run executed (by decide)
  refine ⟨_, _, reached, rfl, ?_⟩
  intro later onward
  exact (@rejectedPayment_lost referenceCrates _ _ 0 _ _ _ _ _ false sameAccount reached rfl rfl onward).2

end PaymentService

end Blazil.Payments
