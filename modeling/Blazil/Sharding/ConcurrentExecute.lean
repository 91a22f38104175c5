import Blazil.Foundation.Attempts
import Blazil.Foundation.Entries
import Blazil.Sharding.CrossShard

/-! Executions of one coordinator that overlap (`libs/sharding/crossshard.go`). Each access of the
outcome cache and each call of a node client is a step of its own, so the steps of other executions
can come between them. How often money moves for one idempotency key when executions overlap, and
that an execution which runs by itself does what the sequential model says. -/

set_option autoImplicit false

namespace Blazil.Sharding

open Foundation

inductive ExecutePhase where
  | looking
  | submitting (source dest : NodeInfo)
  | committing (source dest : NodeInfo) (transferId : String)
  | voiding (transferId : String) (outcome : Except String Unit)
  | storing (outcome : Except String Unit)
  | returned (outcome : Except String Unit)

structure ExecuteProgress where
  request : CrossShardRequest
  phase : ExecutePhase

structure Submission where
  call : Nat
  request : CrossShardRequest
deriving DecidableEq

structure ConcurrentExecute where
  cache : String → Option (Except String Unit)
  ledger : HoldLedger String Submission
  calls : List ExecuteProgress

inductive ExecuteLabel where
  | begin (router : ShardRouter) (request : CrossShardRequest)
  | lookup (call : Nat) (router : ShardRouter)
  | submit (call : Nat) (transferId : String) (outcome : CallOutcome)
  | commit (call : Nat) (outcome : CallOutcome)
  | void (call : Nat) (outcome : CallOutcome)
  | store (call : Nat)

def afterValidation (router : ShardRouter) (request : CrossShardRequest) : ExecutePhase :=
  if !router.isCrossShard request.fromAccountId request.toAccountId then
    .returned (.error ("crossshard: accounts " ++ toString request.fromAccountId ++ " and " ++
      toString request.toAccountId ++ " are on the same shard; use the normal transfer path"))
  else .looking

def afterLookup (cached : Option (Except String Unit)) (router : ShardRouter) (request : CrossShardRequest) : ExecutePhase :=
  match cached with
  | some outcome => .returned outcome
  | none =>
    match router.routeByAccount request.fromAccountId with
    | .error reason =>
      .returned (.error ("crossshard: route source account " ++
        toString request.fromAccountId ++ ": " ++ reason))
    | .ok source =>
      match router.routeByAccount request.toAccountId with
      | .error reason =>
        .returned (.error ("crossshard: route dest account " ++
          toString request.toAccountId ++ ": " ++ reason))
      | .ok dest => .submitting source dest

def afterSubmitPending (source dest : NodeInfo) (reply : Except String String) : ExecutePhase :=
  match reply with
  | .error reason =>
    .storing (.error ("crossshard: submit pending on " ++ source.address ++ ": " ++ reason))
  | .ok transferId => .committing source dest transferId

def afterCommit (dest : NodeInfo) (transferId : String) (reply : Except String Unit) : ExecutePhase :=
  match reply with
  | .ok _ => .storing (.ok ())
  | .error reason =>
    .voiding transferId (.error ("crossshard: commit failed on " ++ dest.address ++
      " (void attempted): " ++ reason))

namespace ConcurrentExecute

def started : ConcurrentExecute := ⟨fun _ => none, ⟨[]⟩, []⟩

@[simps]
def setPhase (state : ConcurrentExecute) (call : Nat) (phase : ExecutePhase) : ConcurrentExecute :=
  { state with
    calls := state.calls.modify call fun progress => { progress with phase := phase } }

@[simps]
def setLedger (state : ConcurrentExecute) (ledger : HoldLedger String Submission) : ConcurrentExecute :=
  { state with ledger := ledger }

@[simps]
def remember (state : ConcurrentExecute) (key : String) (outcome : Except String Unit) : ConcurrentExecute :=
  { state with cache := fun other => if other = key then some outcome else state.cache other }

@[simps]
def append (state : ConcurrentExecute) (progress : ExecuteProgress) : ConcurrentExecute :=
  { state with calls := state.calls ++ [progress] }

def onEffect (outcome : CallOutcome) (changed ledger : HoldLedger String Submission) : HoldLedger String Submission :=
  if outcome.takesEffect then changed else ledger

def step (state : ConcurrentExecute) : ExecuteLabel → Option ConcurrentExecute
  | .begin router request => some (state.append ⟨request, afterValidation router request⟩)
  | .lookup call router =>
    match state.calls[call]? with
    | some ⟨request, .looking⟩ =>
      some (state.setPhase call (afterLookup (state.cache request.idempotencyKey) router request))
    | _ => none
  | .submit call transferId outcome =>
    match state.calls[call]? with
    | some ⟨request, .submitting source dest⟩ =>
      -- the node gives out an id that no pending transfer has
      if state.ledger.Unreserved transferId then
        some ((state.setLedger (onEffect outcome (state.ledger.reserve transferId ⟨call, request⟩) state.ledger)).setPhase call
          (afterSubmitPending source dest (outcome.reply.map fun _ => transferId)))
      else none
    | _ => none
  | .commit call outcome =>
    match state.calls[call]? with
    | some ⟨_, .committing _ dest transferId⟩ =>
      some ((state.setLedger (onEffect outcome (state.ledger.settle transferId .posted)
          state.ledger)).setPhase call (afterCommit dest transferId outcome.reply))
    | _ => none
  | .void call outcome =>
    match state.calls[call]? with
    | some ⟨_, .voiding transferId failure⟩ =>
      some ((state.setLedger (onEffect outcome (state.ledger.settle transferId .voided)
          state.ledger)).setPhase call (.storing failure))
    | _ => none
  | .store call =>
    match state.calls[call]? with
    | some ⟨request, .storing outcome⟩ =>
      some ((state.remember request.idempotencyKey outcome).setPhase call (.returned outcome))
    | _ => none

def system : System ConcurrentExecute ExecuteLabel := ⟨step⟩

inductive Moves (state : ConcurrentExecute) : ExecuteLabel → ConcurrentExecute → Prop where
  | begin {router request} :
      Moves state (.begin router request) (state.append ⟨request, afterValidation router request⟩)
  | lookup {call router request} (found : state.calls[call]? = some ⟨request, .looking⟩) :
      Moves state (.lookup call router) (state.setPhase call (afterLookup (state.cache request.idempotencyKey) router request))
  | submit {call transferId outcome request source dest}
      (found : state.calls[call]? = some ⟨request, .submitting source dest⟩)
      (fresh : state.ledger.Unreserved transferId) :
      Moves state (.submit call transferId outcome)
        ((state.setLedger (onEffect outcome (state.ledger.reserve transferId ⟨call, request⟩)
          state.ledger)).setPhase call (afterSubmitPending source dest (outcome.reply.map fun _ => transferId)))
  | commit {call outcome request source dest transferId}
      (found : state.calls[call]? = some ⟨request, .committing source dest transferId⟩) :
      Moves state (.commit call outcome) ((state.setLedger (onEffect outcome (state.ledger.settle transferId .posted)
          state.ledger)).setPhase call (afterCommit dest transferId outcome.reply))
  | void {call outcome request transferId failure}
      (found : state.calls[call]? = some ⟨request, .voiding transferId failure⟩) :
      Moves state (.void call outcome) ((state.setLedger (onEffect outcome (state.ledger.settle transferId .voided)
          state.ledger)).setPhase call (.storing failure))
  | store {call request outcome} (found : state.calls[call]? = some ⟨request, .storing outcome⟩) :
      Moves state (.store call) ((state.remember request.idempotencyKey outcome).setPhase call (.returned outcome))

theorem step_moves {state next label} (stepped : state.step label = some next) : Moves state label next := by
  cases label with simp only [step] at stepped
  | begin =>
    cases stepped
    exact .begin
  | submit =>
    split at stepped
    · next found =>
      split at stepped
      · next fresh =>
        cases stepped
        exact .submit found fresh
      · cases stepped
    · cases stepped
  | lookup | commit | void | store =>
    split at stepped
    · next found =>
      cases stepped
      constructor
      exact found
    · cases stepped

end ConcurrentExecute

open Foundation.System

def ExecutePhase.stage : ExecutePhase → AttemptStage
  | .looking | .returned _ => .outside
  | .submitting _ _ => .armed
  | .committing _ _ _ | .voiding _ _ | .storing _ => .spent

def ExecuteProgress.stageFor (key : String) (progress : ExecuteProgress) : AttemptStage :=
  if progress.request.idempotencyKey = key then progress.phase.stage else .outside

@[simp] theorem stage_afterValidation (router : ShardRouter) (request : CrossShardRequest) :
    (afterValidation router request).stage = .outside := by
  unfold afterValidation
  split <;> rfl

theorem stage_afterLookup (cached : Option (Except String Unit)) (router : ShardRouter) (request : CrossShardRequest) :
    (afterLookup cached router request).stage = .outside ∨
      (afterLookup cached router request).stage = .armed ∧ cached = none := by
  unfold afterLookup
  cases cached with
  | some => exact .inl rfl
  | none =>
    cases router.routeByAccount request.fromAccountId with
    | error => exact .inl rfl
    | ok =>
      cases router.routeByAccount request.toAccountId with
      | error => exact .inl rfl
      | ok => exact .inr ⟨rfl, rfl⟩

@[simp] theorem stage_afterSubmitPending (source dest : NodeInfo) (reply : Except String String) :
    (afterSubmitPending source dest reply).stage = .spent := by
  cases reply <;> rfl

@[simp] theorem stage_afterCommit (dest : NodeInfo) (transferId : String)
    (reply : Except String Unit) : (afterCommit dest transferId reply).stage = .spent := by
  cases reply <;> rfl

namespace ConcurrentExecute

def submittedFor (state : ConcurrentExecute) (key : String) : Nat :=
  state.ledger.holds.countP fun hold => hold.owner.request.idempotencyKey = key

def postedFor (state : ConcurrentExecute) (key : String) : Nat :=
  state.ledger.holds.countP fun hold =>
    hold.owner.request.idempotencyKey = key ∧ hold.status = .posted

theorem submittedFor_setPhase (state : ConcurrentExecute) (call : Nat) (phase : ExecutePhase)
    (key : String) : (state.setPhase call phase).submittedFor key = state.submittedFor key := rfl

theorem postedFor_le_submittedFor (state : ConcurrentExecute) (key : String) : state.postedFor key ≤ state.submittedFor key := by
  apply List.countP_mono_left
  intro hold _ posted
  simp only [decide_eq_true_eq] at posted ⊢
  exact posted.1

/-- A call looks the key up only while no other call for the key is between its own
lookup and the storing of its outcome. -/
def Exclusive (key : String) (state : ConcurrentExecute) : ExecuteLabel → Prop
  | .lookup call _ => ∀ progress ∈ state.calls[call]?, progress.request.idempotencyKey = key →
      ∀ other ∈ state.calls, other.request.idempotencyKey = key → other.phase.stage = .outside
  | _ => True

instance (key : String) (state : ConcurrentExecute) (label : ExecuteLabel) : Decidable (Exclusive key state label) :=
  match label with
  | .lookup call _ =>
    inferInstanceAs (Decidable (∀ progress ∈ state.calls[call]?, _ → ∀ other ∈ state.calls, _))
  | .begin _ _ | .submit _ _ _ | .commit _ _ | .void _ _ | .store _ => .isTrue trivial

variable {changed : ConcurrentExecute}

section Attempts

/-- The executions for one key as attempts at submitting a transfer; the cache is what
turns later ones away. -/
def attempts (key : String) (state : ConcurrentExecute) : Attempts :=
  .census (ExecuteProgress.stageFor key) state.calls (state.cache key).isSome (state.submittedFor key)

variable {key : String} {state : ConcurrentExecute} {call : Nat} {request : CrossShardRequest} {phase : ExecutePhase}

theorem attempts_setPhase {next} (found : state.calls[call]? = some ⟨request, phase⟩)
    (same : next.stage = phase.stage ∨ request.idempotencyKey ≠ key) (calls : changed.calls = state.calls)
    (cache : (changed.cache key).isSome = (state.cache key).isSome)
    (submitted : changed.submittedFor key = state.submittedFor key) :
    attempts key (changed.setPhase call next) = attempts key state := by
  unfold attempts
  rw [setPhase_cache, setPhase_calls, calls, cache]
  refine (Attempts.census_modify found ?_ _ _).trans (by rw [← submitted]; rfl)
  unfold ExecuteProgress.stageFor
  rcases same with same | other
  · simp only [same]
  · rw [if_neg other, if_neg other]

theorem submittedFor_settle (ledger : HoldLedger String Submission) (transferId : String)
    (status : HoldStatus) (outcome : CallOutcome) :
    (state.setLedger (onEffect outcome (ledger.settle transferId status) ledger)).submittedFor key =
      (state.setLedger ledger).submittedFor key := by
  unfold submittedFor onEffect
  cases outcome.takesEffect with
  | false => rfl
  | true =>
    rw [setLedger_ledger, if_pos rfl, HoldLedger.settle, List.countP_map]
    congr 1
    funext hold
    rw [Function.comp_apply, HoldLedger.settleHold]
    split <;> rfl

theorem submittedFor_reserve (transferId : String) (outcome : CallOutcome) :
    (state.setLedger (onEffect outcome (state.ledger.reserve transferId ⟨call, request⟩) state.ledger)).submittedFor key =
      state.submittedFor key + if request.idempotencyKey = key ∧ outcome.takesEffect = true then 1 else 0 := by
  unfold submittedFor onEffect HoldLedger.reserve
  cases outcome.takesEffect with
  | false => simp
  | true => simp [List.countP_append, List.countP_cons]

theorem follows_step {next label} (exclusive : Exclusive key state label)
    (stepped : state.step label = some next) : (attempts key state).Follows (attempts key next) := by
  cases step_moves stepped with
  | begin =>
    refine .inl (Attempts.census_append _ ?_ _ _ _)
    rw [ExecuteProgress.stageFor, stage_afterValidation, ite_self]
  | @lookup _ router request found =>
    by_cases own : request.idempotencyKey = key
    · rcases stage_afterLookup (state.cache request.idempotencyKey) router request with
        out | ⟨armed, unknown⟩
      · exact .inl (attempts_setPhase found (.inl out) rfl rfl rfl)
      · have nobody : ∀ other ∈ state.calls, other.stageFor key = .outside := by
          intro other member
          unfold ExecuteProgress.stageFor
          split
          · next same => exact exclusive _ found own other member same
          · rfl
        have closed : (state.cache key).isSome = false := by rw [← own, unknown]; rfl
        unfold attempts
        rw [setPhase_cache, setPhase_calls, closed]
        exact Attempts.follows_enter found nobody (by simp only [ExecuteProgress.stageFor, if_pos own, armed]) _
    · exact .inl (attempts_setPhase found (.inr own) rfl rfl rfl)
  | @submit call transferId outcome request _ _ found _ =>
    have submitted := @submittedFor_reserve key state call request transferId outcome
    by_cases own : request.idempotencyKey = key
    · simp only [own, true_and] at submitted
      unfold attempts
      rw [submittedFor_setPhase, submitted]
      exact Attempts.follows_act found (if_pos own) ((if_pos own).trans (stage_afterSubmitPending _ _ _)) _ _ _ _
    · simp only [own, false_and, if_false, Nat.add_zero] at submitted
      exact .inl (attempts_setPhase found (.inr own) rfl rfl submitted)
  | commit found =>
    exact .inl (attempts_setPhase found (.inl (stage_afterCommit _ _ _)) rfl rfl (submittedFor_settle _ _ _ _))
  | void found =>
    exact .inl (attempts_setPhase found (.inl rfl) rfl rfl (submittedFor_settle _ _ _ _))
  | @store _ request outcome found =>
    by_cases own : request.idempotencyKey = key
    · have closed : ((state.remember request.idempotencyKey outcome).cache key).isSome = true := by
        rw [remember_cache, if_pos own.symm]
        rfl
      unfold attempts
      rw [setPhase_cache, setPhase_calls, closed]
      exact Attempts.follows_finish found (if_pos own) (if_pos own) _ (.inl rfl)
    · refine .inl (attempts_setPhase found (.inr own) rfl ?_ rfl)
      rw [remember_cache, if_neg (Ne.symm own)]

theorem atMostOnce_of_reaches (reached : system.Reaches (Exclusive key) started state) : (attempts key state).AtMostOnce :=
  reached.invariant (fun state => (attempts key state).AtMostOnce) (Attempts.atMostOnce_initial false)
    fun _ _ _ exclusive stepped once => once.follows (follows_step exclusive stepped)

end Attempts

section LaterCalls

variable {key : String} {state next : ConcurrentExecute} {label : ExecuteLabel} {call first : Nat} {phase : ExecutePhase}

theorem calls_setPhase {index progress} (found : (state.setPhase call phase).calls[index]? = some progress) :
    index = call ∧ progress.phase = phase ∧ (∃ before, state.calls[call]? = some ⟨progress.request, before⟩) ∨
      state.calls[index]? = some progress := by
  rcases entry_of_modify found with ⟨own, before, present, rfl⟩ | ⟨_, kept⟩
  · exact .inl ⟨own, rfl, before.phase, present⟩
  · exact .inr kept

theorem known_of_step (known : (state.cache key).isSome = true)
    (stepped : state.step label = some next) : (next.cache key).isSome = true := by
  cases step_moves stepped with
  | store =>
    rw [setPhase_cache, remember_cache]
    split
    · rfl
    · exact known
  | begin | lookup | submit | commit | void => exact known

/-- A call that has returned nil has left its outcome in the cache, or found it there. -/
def Remembered (key : String) (state : ConcurrentExecute) : Prop :=
  ∀ (call : Nat) (request : CrossShardRequest),
    state.calls[call]? = some ⟨request, .returned (.ok ())⟩ → request.idempotencyKey = key → (state.cache key).isSome = true

theorem afterLookup_ok {cached router request}
    (returned : afterLookup cached router request = .returned (.ok ())) : cached = some (.ok ()) := by
  unfold afterLookup at returned
  cases cached with
  | some =>
    cases returned
    rfl
  | none =>
    revert returned
    cases router.routeByAccount request.fromAccountId with
    | error => simp
    | ok => cases router.routeByAccount request.toAccountId <;> simp

theorem Remembered.step (remembered : Remembered key state) (stepped : state.step label = some next) : Remembered key next := by
  intro index request found own
  have old : ∀ {index : Nat}, state.calls[index]? = some ⟨request, .returned (.ok ())⟩ → (next.cache key).isSome = true :=
    fun present => known_of_step (remembered _ request present own) stepped
  cases step_moves stepped with
  | begin =>
    rcases entry_of_concat found with ⟨_, earlier⟩ | ⟨_, new⟩
    · exact old earlier
    · simp only [afterValidation, ExecuteProgress.mk.injEq] at new
      split at new
      · cases new.2
      · cases new.2
  | @lookup _ _ _ present =>
    rcases calls_setPhase found with ⟨rfl, moved, _, same⟩ | still
    · rw [present] at same
      cases same
      rw [setPhase_cache, ← own, afterLookup_ok moved.symm]
      rfl
    · exact old still
  | submit | commit =>
    rcases calls_setPhase found with ⟨rfl, moved, _⟩ | still
    · have spent := congrArg ExecutePhase.stage moved
      simp only [stage_afterSubmitPending, stage_afterCommit] at spent
      cases spent
    · exact old still
  | void =>
    rcases calls_setPhase found with ⟨rfl, moved, _⟩ | still
    · cases moved
    · exact old still
  | @store _ _ _ present =>
    rcases calls_setPhase found with ⟨rfl, _, _, same⟩ | still
    · simp only [remember_calls] at same
      rw [present] at same
      cases same
      rw [setPhase_cache, remember_cache, if_pos own.symm]
      rfl
    · exact old still

/-- What holds from a point on at which the key has an outcome: the calls begun since
then have not come past their lookup, and no transfer of the key is theirs. -/
structure TurnedAway (key : String) (first : Nat) (state : ConcurrentExecute) : Prop where
  known : (state.cache key).isSome = true
  outside : ∀ (call : Nat) (progress : ExecuteProgress), first ≤ call →
    state.calls[call]? = some progress → progress.request.idempotencyKey = key → progress.phase.stage = .outside
  unsubmitted : ∀ hold ∈ state.ledger.holds, first ≤ hold.owner.call → hold.owner.request.idempotencyKey ≠ key

theorem TurnedAway.moved {before} (away : TurnedAway key first state)
    (found : state.calls[call]? = some before) (calls : changed.calls = state.calls) (known : (changed.cache key).isSome = true)
    (outside : before.request.idempotencyKey = key → phase.stage = .outside ∨ before.phase.stage ≠ .outside)
    (unsubmitted : ∀ hold ∈ changed.ledger.holds, first ≤ hold.owner.call → hold.owner.request.idempotencyKey ≠ key) :
    TurnedAway key first (changed.setPhase call phase) := by
  refine ⟨known, ?_, unsubmitted⟩
  intro index progress later present own
  rcases calls_setPhase present with ⟨rfl, reached, _, same⟩ | still
  · rw [calls, found] at same
    cases same
    rcases outside own with out | inside
    · rw [reached, out]
    · exact absurd (away.outside index _ later found own) inside
  · rw [calls] at still
    exact away.outside index progress later still own

theorem mem_onEffect_settle {ledger outcome transferId status hold}
    (member : hold ∈ (onEffect outcome (ledger.settle transferId status) ledger).holds) :
    ∃ before ∈ ledger.holds, before.owner = hold.owner := by
  unfold onEffect at member
  split at member
  · obtain ⟨before, present, rfl⟩ := List.mem_map.mp member
    refine ⟨before, present, ?_⟩
    unfold HoldLedger.settleHold
    split <;> rfl
  · exact ⟨hold, member, rfl⟩

theorem TurnedAway.step (away : TurnedAway key first state)
    (stepped : state.step label = some next) : TurnedAway key first next := by
  have known := known_of_step away.known stepped
  have settled : ∀ {outcome : CallOutcome} {transferId : String} {status : HoldStatus},
      ∀ hold ∈ (onEffect outcome (state.ledger.settle transferId status) state.ledger).holds,
        first ≤ hold.owner.call → hold.owner.request.idempotencyKey ≠ key := by
    intro outcome transferId status hold member
    obtain ⟨before, present, same⟩ := mem_onEffect_settle member
    rw [← same]
    exact away.unsubmitted before present
  cases step_moves stepped with
  | begin =>
    refine ⟨known, ?_, away.unsubmitted⟩
    intro index progress later found own
    rcases entry_of_concat found with ⟨_, earlier⟩ | ⟨_, new⟩
    · exact away.outside index progress later earlier own
    · rw [new, stage_afterValidation]
  | @lookup _ router request found =>
    refine away.moved found rfl known (fun own => .inl ?_) away.unsubmitted
    rcases stage_afterLookup (state.cache request.idempotencyKey) router request with out | ⟨_, unknown⟩
    · exact out
    · have contradiction := away.known
      rw [← own, unknown] at contradiction
      cases contradiction
  | @submit call _ _ _ _ _ found _ =>
    refine away.moved found rfl known (fun _ => .inr (by simp [ExecutePhase.stage])) ?_
    intro hold member later own
    rw [setLedger_ledger, onEffect] at member
    split at member
    · rcases mem_concat.mp member with old | rfl
      · exact away.unsubmitted hold old later own
      · cases away.outside call _ later found own
    · exact away.unsubmitted hold member later own
  | commit found | void found =>
    exact away.moved found rfl known (fun _ => .inr (by simp [ExecutePhase.stage])) settled
  | store found => exact away.moved found rfl known (fun _ => .inl rfl) away.unsubmitted

theorem submission_begun (reached : system.Reachable started state) :
    ∀ hold ∈ state.ledger.holds, hold.owner.call < state.calls.length := by
  refine reached.invariant (fun state => ∀ hold ∈ state.ledger.holds, hold.owner.call < state.calls.length) ?_ ?_
  · intro hold member
    cases member
  · intro before label after _ stepped begun hold member
    cases step_moves stepped with
    | begin =>
      rw [append_calls, List.length_append]
      exact Nat.lt_add_right _ (begun hold member)
    | lookup found | store found =>
      rw [setPhase_calls, List.length_modify]
      exact begun hold member
    | submit found =>
      rw [setPhase_calls, List.length_modify]
      rw [setPhase_ledger, setLedger_ledger, onEffect] at member
      split at member
      · rcases mem_concat.mp member with old | rfl
        · exact begun hold old
        · exact entry_lt found
      · exact begun hold member
    | commit found | void found =>
      rw [setPhase_calls, List.length_modify]
      obtain ⟨old, present, same⟩ := mem_onEffect_settle member
      rw [← same]
      exact begun old present

end LaterCalls

section Alone

variable (cache : String → Option (Except String Unit)) (ledger : HoldLedger String Submission) (calls : List ExecuteProgress)
  (request : CrossShardRequest)

def lastAt (phase : ExecutePhase) : ConcurrentExecute :=
  ⟨cache, ledger, calls ++ [⟨request, phase⟩]⟩

theorem lastAt_found (phase : ExecutePhase) :
    (lastAt cache ledger calls request phase).calls[calls.length]? = some ⟨request, phase⟩ := by
  simp [lastAt]

theorem lastAt_setPhase (phase next : ExecutePhase) :
    (lastAt cache ledger calls request phase).setPhase calls.length next = lastAt cache ledger calls request next := by
  simp [lastAt, setPhase, List.modify_eq_take_drop]

theorem step_lookup (router : ShardRouter) :
    system.step (lastAt cache ledger calls request .looking) (.lookup calls.length router) =
      some (lastAt cache ledger calls request (afterLookup (cache request.idempotencyKey) router request)) := by
  simp only [system, step, lastAt_found, lastAt_setPhase]
  rfl

variable {source dest : NodeInfo} {transferId : String} {outcomes : CallOutcomes}

theorem step_submit (outcome : CallOutcome) (fresh : ledger.Unreserved transferId) :
    system.step (lastAt cache ledger calls request (.submitting source dest)) (.submit calls.length transferId outcome) =
      some (lastAt cache (onEffect outcome (ledger.reserve transferId ⟨calls.length, request⟩) ledger) calls request
        (afterSubmitPending source dest (outcome.reply.map fun _ => transferId))) := by
  simp only [system, step, lastAt_found]
  exact (if_pos fresh).trans (congrArg some (lastAt_setPhase _ _ calls request (.submitting source dest) _))

theorem step_commit (outcome : CallOutcome) :
    system.step (lastAt cache ledger calls request (.committing source dest transferId)) (.commit calls.length outcome) =
      some (lastAt cache (onEffect outcome (ledger.settle transferId .posted) ledger) calls request
        (afterCommit dest transferId outcome.reply)) := by
  simp only [system, step, lastAt_found]
  exact congrArg some (lastAt_setPhase _ _ calls request (.committing source dest transferId) _)

theorem step_void {failure} (outcome : CallOutcome) :
    system.step (lastAt cache ledger calls request (.voiding transferId failure)) (.void calls.length outcome) =
      some (lastAt cache (onEffect outcome (ledger.settle transferId .voided) ledger) calls request (.storing failure)) := by
  simp only [system, step, lastAt_found]
  exact congrArg some (lastAt_setPhase _ _ calls request (.voiding transferId failure) _)

theorem step_store (outcome : Except String Unit) :
    system.step (lastAt cache ledger calls request (.storing outcome)) (.store calls.length) =
      some (lastAt (fun other => if other = request.idempotencyKey then some outcome
        else cache other) ledger calls request (.returned outcome)) := by
  simp only [system, step, lastAt_found]
  exact congrArg some (lastAt_setPhase _ _ calls request (.storing outcome) _)

variable {cache ledger calls request}

theorem run_transfer (source dest : NodeInfo) (fresh : ledger.Unreserved outcomes.transferId) :
    ∃ labels, system.run (lastAt cache ledger calls request (.submitting source dest)) labels = some (lastAt
        (fun other => if other = request.idempotencyKey then
          some ((scripted (Submission.mk calls.length) outcomes).transfer source dest request ledger).1 else cache other)
        ((scripted (Submission.mk calls.length) outcomes).transfer source dest request ledger).2 calls request
        (.returned ((scripted (Submission.mk calls.length) outcomes).transfer source dest request ledger).1)) := by
  obtain ⟨_, submit, commit, void⟩ := outcomes
  have stored := fun ledger outcome => exists_run_cons (step_store cache ledger calls request outcome) ⟨[], rfl⟩
  refine exists_run_cons (step_submit cache ledger calls request submit fresh) ?_
  simp only [scripted]
  cases submitReply : submit.reply with
  | error => exact stored _ _
  | ok =>
    refine exists_run_cons (step_commit _ _ calls request commit) ?_
    cases commitReply : commit.reply with
    | ok => exact stored _ _
    | error => exact exists_run_cons (step_void _ _ calls request void) (stored _ _)

/-- An execution that runs from beginning to end with no other one in between does what
the sequential coordinator does. -/
theorem run_execute (router : ShardRouter) (fresh : ledger.Unreserved outcomes.transferId) :
    ∃ labels, system.run ⟨cache, ledger, calls⟩ labels = some (lastAt
        (CrossShardCoordinator.execute (scripted (Submission.mk calls.length) outcomes) router request ⟨cache, ledger⟩).2.cache
        (CrossShardCoordinator.execute (scripted (Submission.mk calls.length) outcomes) router request ⟨cache, ledger⟩).2.world
        calls request (.returned (CrossShardCoordinator.execute (scripted (Submission.mk calls.length) outcomes)
          router request ⟨cache, ledger⟩).1)) := by
  have begun : system.step ⟨cache, ledger, calls⟩ (.begin router request) =
      some (lastAt cache ledger calls request (afterValidation router request)) := rfl
  refine exists_run_cons begun ?_
  unfold CrossShardCoordinator.execute
  cases crossing : router.isCrossShard request.fromAccountId request.toAccountId with
  | false => exact ⟨[], by simp [afterValidation, crossing]⟩
  | true =>
    simp only [afterValidation, crossing, Bool.not_true, Bool.false_eq_true, if_false]
    refine exists_run_cons (step_lookup cache ledger calls request router) ?_
    cases known : cache request.idempotencyKey with
    | some => exact ⟨[], rfl⟩
    | none =>
      simp only [afterLookup]
      cases fromNode : router.routeByAccount request.fromAccountId with
      | error => exact ⟨[], rfl⟩
      | ok source =>
        cases toNode : router.routeByAccount request.toAccountId with
        | error => exact ⟨[], rfl⟩
        | ok dest => exact run_transfer source dest fresh

end Alone

/-- When the lookups for a key are exclusive, the money of at most one of its executions
ends up posted. In any run, once an execution for the key has returned nil, those begun
later never come to submitting a transfer. -/
theorem exclusiveExecutions_postOnce {key : String} {state : ConcurrentExecute} (reached : system.Reachable started state) :
    (system.Reaches (Exclusive key) started state → state.postedFor key ≤ 1) ∧ ∀ (call : Nat) (request : CrossShardRequest),
        state.calls[call]? = some ⟨request, .returned (.ok ())⟩ → request.idempotencyKey = key →
        ∀ later, system.Reachable state later → (∀ (index : Nat) (progress : ExecuteProgress), state.calls.length ≤ index →
            later.calls[index]? = some progress → progress.request.idempotencyKey = key → progress.phase.stage = .outside) ∧
          ∀ hold ∈ later.ledger.holds, state.calls.length ≤ hold.owner.call → hold.owner.request.idempotencyKey ≠ key := by
  refine ⟨fun exclusive => ?_, ?_⟩
  · calc state.postedFor key
      _ ≤ state.submittedFor key := state.postedFor_le_submittedFor key
      _ ≤ 1 := (atMostOnce_of_reaches exclusive).once
  · intro call request returned own later onward
    have remembered : Remembered key state :=
      reached.invariant (Remembered key) (by simp [Remembered, started])
        fun _ _ _ _ stepped remembered => remembered.step stepped
    have now : TurnedAway key state.calls.length state := by
      refine ⟨remembered call request returned own, ?_, ?_⟩
      · intro index progress late found
        exact absurd (entry_lt found) (Nat.not_lt.mpr late)
      · intro hold member late
        exact absurd (submission_begun reached hold member) (Nat.not_lt.mpr late)
    have away : TurnedAway key state.calls.length later :=
      onward.invariant (TurnedAway key state.calls.length) now fun _ _ _ _ stepped away => away.step stepped
    exact ⟨away.outside, away.unsubmitted⟩

open CrossShardCoordinator (parityRouter crossRequest)

def postedEarlier : Hold String Submission := ⟨"t0", ⟨0, crossRequest⟩, .posted⟩

/-- An execution whose commit is rejected, after an earlier one whose outcome is no longer cached. -/
theorem rejectedCommit_run : HoldLedger.Unreserved ⟨[postedEarlier]⟩ "t1" ∧
    ∃ labels state, system.run ⟨fun _ => none, ⟨[postedEarlier]⟩, [⟨crossRequest, .returned (.ok ())⟩]⟩ labels = some state ∧
      state.ledger = ⟨[postedEarlier, ⟨"t1", ⟨1, crossRequest⟩, .voided⟩]⟩ ∧
      (state.cache "order-7").map Except.isOk = some false := by
  have fresh : HoldLedger.Unreserved ⟨[postedEarlier]⟩ "t1" := by decide
  obtain ⟨labels, executed⟩ := @run_execute (fun _ => none) ⟨[postedEarlier]⟩ [⟨crossRequest, .returned (.ok ())⟩] crossRequest
    ⟨"t1", .accepted, .rejected "no", .accepted⟩ parityRouter fresh
  exact ⟨fresh, labels, _, executed, by decide, by decide⟩

/-- Both executions look the key up before either has stored its outcome. -/
theorem overlappingExecutions_postTwice : ∃ state, system.Reachable started state ∧ state.postedFor "order-7" = 2 :=
  exists_reachable_of_run _ _ [.begin parityRouter crossRequest, .begin parityRouter crossRequest, .lookup 0 parityRouter,
      .lookup 1 parityRouter, .submit 0 "t1" .accepted, .submit 1 "t2" .accepted,
      .commit 0 .accepted, .commit 1 .accepted, .store 0, .store 1] _ (by decide)

/-- A second execution that begins after the first has returned posts nothing. -/
theorem laterExecution_postsNothing :
    ∃ state, system.Reaches (Exclusive "order-7") started state ∧ state.calls.length = 2 ∧
      state.postedFor "order-7" ≤ 1 := by
  obtain ⟨state, reached, both⟩ := exists_reaches_of_run system (Exclusive "order-7") started
    [.begin parityRouter crossRequest, .lookup 0 parityRouter, .submit 0 "t1" .accepted,
      .commit 0 .accepted, .store 0, .begin parityRouter crossRequest, .lookup 1 parityRouter]
    (fun state => state.calls.length = 2) (by decide) (by decide)
  exact ⟨state, reached, both, (exclusiveExecutions_postOnce reached.reachable).1 reached⟩

end ConcurrentExecute

end Blazil.Sharding
