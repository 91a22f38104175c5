import Blazil.Engine.Runtime

/-! What becomes of each handled sequence: it is rejected by the chain, waits in the
queue of the worker that handled it, or has gone to the ledger in one batch. -/

set_option autoImplicit false

namespace Blazil.Engine

open Blazil.Common Blazil.Ledger

def occurrences (items : List (Int × Transfer)) (sequence : Int) : Nat :=
  items.countP fun item => item.1 = sequence

theorem occurrences_append (front back : List (Int × Transfer)) (sequence : Int) :
    occurrences (front ++ back) sequence = occurrences front sequence + occurrences back sequence :=
  List.countP_append

theorem occurrences_singleton (item : Int × Transfer) (sequence : Int) :
    occurrences [item] sequence = if item.1 = sequence then 1 else 0 := by
  simp [occurrences]

@[simp] theorem occurrences_nil (sequence : Int) : occurrences [] sequence = 0 := rfl

theorem occurrences_pos {items item} (member : item ∈ items) : 0 < occurrences items item.1 :=
  List.countP_pos_iff.mpr ⟨item, member, by simp⟩

namespace Runtime

variable {Task Tag : Type} {numShards : Nat}

def dispatched (runtime : Runtime Task Tag numShards) : List (Int × Transfer) :=
  (runtime.tasks.map fun task => task.batch).flatten

def timesDispatched (runtime : Runtime Task Tag numShards) (sequence : Int) : Nat :=
  occurrences runtime.dispatched sequence

def timesDeferred (runtime : Runtime Task Tag numShards) (worker : Fin numShards) (sequence : Int) : Nat :=
  occurrences (runtime.handlers worker).deferred sequence

variable {runtime : Runtime Task Tag numShards} {index : Nat} {task : BatchTask} {pipeline : Pipeline Task (Job Tag) numShards}
  {entry : Handled (Job Tag) numShards} {transfer : Transfer} {batch : List (Int × Transfer)} {item : Int × Transfer}
  {place : Nat} {worker : Fin numShards}

theorem dispatched_setTask {phase : TaskPhase} (next : TaskPhase) (found : runtime.tasks[index]? = some ⟨batch, phase⟩) :
    (runtime.setTask index ⟨batch, next⟩).dispatched = runtime.dispatched := by
  unfold dispatched setTask
  rw [List.map_set]
  congr 1
  obtain ⟨inside, _⟩ := List.getElem?_eq_some_iff.mp found
  apply List.ext_getElem?
  intro place
  rw [List.getElem?_set, List.length_map, if_pos inside]
  split
  · next same =>
    subst same
    simp [found]
  · rfl

theorem mem_dispatched (found : runtime.tasks[index]? = some task) (member : item ∈ task.batch) : item ∈ runtime.dispatched :=
  List.mem_flatten.mpr ⟨task.batch, List.mem_map.mpr ⟨task, List.mem_of_getElem? found, rfl⟩, member⟩

theorem timesDispatched_pos (member : item ∈ runtime.dispatched) : 0 < runtime.timesDispatched item.1 :=
  occurrences_pos member

theorem task_of_setTask {next : BatchTask} (placed : (runtime.setTask index next).tasks[place]? = some task) :
    place = index ∧ task = next ∨ place ≠ index ∧ runtime.tasks[place]? = some task := by
  rw [setTask_tasks, List.getElem?_set] at placed
  split at placed
  · next same =>
    split at placed
    · exact .inl ⟨same.symm, (Option.some.inj placed).symm⟩
    · cases placed
  · next different => exact .inr ⟨Ne.symm different, placed⟩

theorem task_of_afterChain {effect} (placed : (runtime.afterChain pipeline worker effect).tasks[place]? = some task) :
    runtime.tasks[place]? = some task ∨ ∃ batch, effect.dispatched = some batch ∧ task = ⟨batch, .running 0⟩ := by
  simp only [afterChain] at placed
  rw [List.getElem?_append] at placed
  split at placed
  · exact .inl placed
  · obtain ⟨batch, member, rfl⟩ := List.mem_map.mp (List.mem_of_getElem? placed)
    exact .inr ⟨batch, Option.mem_toList.mp member, rfl⟩

theorem dispatched_afterChain (runtime : Runtime Task Tag numShards)
    (pipeline : Pipeline Task (Job Tag) numShards) (worker : Fin numShards) (effect : ChainEffect) :
    (runtime.afterChain pipeline worker effect).dispatched = runtime.dispatched ++ effect.dispatched.toList.flatten := by
  unfold dispatched afterChain
  cases effect.dispatched <;> simp

section Chain

variable [ExternalCrates]

inductive ChainCase (risk : RiskHandler) (runtime : Runtime Task Tag numShards)
    (entry : Handled (Job Tag) numShards) (transferId : TransferId) (now : Nat) : Prop where
  | rejected {reason} (refused : chainVerdict risk transferId entry.event.event = .error reason)
      (effect : runtime.chainEffect risk entry transferId now = ⟨runtime.handlers entry.worker,
          runtime.results.insert entry.sequence (.rejected reason), none⟩)
  | deferred {transfer startedAt} (admitted : chainVerdict risk transferId entry.event.event = .ok transfer)
      (unclosed : entry.endOfBatch = false)
      (effect : runtime.chainEffect risk entry transferId now =
        ⟨⟨startedAt, (runtime.handlers entry.worker).deferred ++ [(entry.sequence, transfer)]⟩, runtime.results, none⟩)
  | flushed {transfer : Transfer} (admitted : chainVerdict risk transferId entry.event.event = .ok transfer)
      (effect : runtime.chainEffect risk entry transferId now = ⟨⟨none, []⟩, runtime.results,
          some ((runtime.handlers entry.worker).deferred ++ [(entry.sequence, transfer)])⟩)

theorem chainCase {risk} (transferId : TransferId) (now : Nat) (undecided : runtime.results entry.sequence = none) :
    ChainCase risk runtime entry transferId now := by
  cases verdict : chainVerdict risk transferId entry.event.event with
  | error => exact .rejected verdict (runHandlers_rejected undecided verdict)
  | ok transfer =>
    have effect := @runHandlers_admitted entry.event.event _ risk (runtime.handlers entry.worker) runtime.results
      entry.sequence entry.endOfBatch transferId now transfer undecided verdict
    by_cases flush : (runtime.handlers entry.worker).shouldFlush entry.endOfBatch now = true
    · rw [if_pos flush] at effect
      exact .flushed verdict effect
    · rw [if_neg flush] at effect
      refine .deferred verdict ?_ effect
      cases closing : entry.endOfBatch with
      | false => rfl
      | true => simp [LedgerHandler.shouldFlush, closing] at flush

end Chain

/-- Where a handled sequence is, from how often it is in the batches, how often it is
in each queue, and its result. -/
inductive Placement (owner : Fin numShards) (batched : Nat) (queued : Fin numShards → Nat)
    (result : Option TransactionResult) : Prop where
  | dispatched (once : batched = 1) (gone : ∀ worker, queued worker = 0)
  | deferred (never : batched = 0) (once : queued owner = 1) (elsewhere : ∀ worker, worker ≠ owner → queued worker = 0)
  | rejected (never : batched = 0) (gone : ∀ worker, queued worker = 0) (refused : ∃ reason, result = some (.rejected reason))

theorem Placement.flush {owner batched queued result} (placement : Placement owner batched queued result)
    (flushed : Fin numShards) :
    Placement owner (batched + queued flushed) (fun worker => if worker = flushed then 0 else queued worker) result := by
  have emptied : (∀ worker, queued worker = 0) → ∀ worker, (if worker = flushed then 0 else queued worker) = 0 := by
    intro gone worker
    split
    · rfl
    · exact gone worker
  cases placement with
  | dispatched once gone => exact .dispatched (by rw [gone, once]) (emptied gone)
  | deferred never once elsewhere =>
    by_cases own : flushed = owner
    · subst own
      refine .dispatched (by rw [never, once]) fun worker => ?_
      split
      · rfl
      · next other => exact elsewhere worker other
    · refine .deferred (by rw [never, elsewhere flushed own]) ?_ fun worker other => ?_
      · rw [if_neg (fun same => own same.symm), once]
      · split
        · rfl
        · exact elsewhere worker other
  | rejected never gone refused => exact .rejected (by rw [never, gone]) (emptied gone) refused

def Placed (runtime : Runtime Task Tag numShards) (owner : Fin numShards) (sequence : Int) : Prop :=
  Placement owner (runtime.timesDispatched sequence)
    (fun worker => runtime.timesDeferred worker sequence) (runtime.results sequence)

structure Untouched (runtime : Runtime Task Tag numShards) (sequence : Int) : Prop where
  batched : runtime.timesDispatched sequence = 0
  queued : ∀ worker, runtime.timesDeferred worker sequence = 0
  undecided : runtime.results sequence = none

structure Accounting (runtime : Runtime Task Tag numShards) : Prop where
  handled : ∀ entry ∈ runtime.pipeline.handled, runtime.Placed entry.worker entry.sequence
  unhandled : ∀ sequence, (∀ entry ∈ runtime.pipeline.handled, entry.sequence ≠ sequence) → runtime.Untouched sequence

variable {next : Runtime Task Tag numShards}

theorem Accounting.congr (accounting : runtime.Accounting)
    (handled : next.pipeline.handled = runtime.pipeline.handled) (handlers : next.handlers = runtime.handlers)
    (dispatched : next.dispatched = runtime.dispatched) (results : next.results = runtime.results) : next.Accounting := by
  have batched : ∀ sequence, next.timesDispatched sequence = runtime.timesDispatched sequence := by
    intro sequence
    rw [timesDispatched, dispatched, timesDispatched]
  have queued : ∀ worker sequence,
      next.timesDeferred worker sequence = runtime.timesDeferred worker sequence := by
    intro worker sequence
    rw [timesDeferred, handlers, timesDeferred]
  constructor
  · intro entry member
    rw [handled] at member
    simpa only [Placed, batched, queued, results] using accounting.handled entry member
  · intro sequence none
    rw [handled] at none
    have untouched := accounting.unhandled sequence none
    exact ⟨by rw [batched, untouched.batched], fun worker => by rw [queued, untouched.queued],
      by rw [results, untouched.undecided]⟩

theorem Accounting.timesDispatched_le_one (accounting : runtime.Accounting) (sequence : Int) :
    runtime.timesDispatched sequence ≤ 1 := by
  by_cases known : ∃ entry ∈ runtime.pipeline.handled, entry.sequence = sequence
  · obtain ⟨entry, member, rfl⟩ := known
    cases accounting.handled entry member with
    | dispatched once => exact once.le
    | deferred never _ _ | rejected never _ _ => omega
  · push Not at known
    have := (accounting.unhandled sequence known).batched
    omega

theorem timesDispatched_afterChain (runtime : Runtime Task Tag numShards) (pipeline : Pipeline Task (Job Tag) numShards)
    (worker : Fin numShards) (effect : ChainEffect) (sequence : Int) :
    (runtime.afterChain pipeline worker effect).timesDispatched sequence = runtime.timesDispatched sequence +
        occurrences effect.dispatched.toList.flatten sequence := by
  unfold timesDispatched
  rw [dispatched_afterChain, occurrences_append]

theorem timesDeferred_afterChain (runtime : Runtime Task Tag numShards) (pipeline : Pipeline Task (Job Tag) numShards)
    (worker other : Fin numShards) (effect : ChainEffect) (sequence : Int) :
    (runtime.afterChain pipeline worker effect).timesDeferred other sequence =
      if other = worker then occurrences effect.handler.deferred sequence
      else runtime.timesDeferred other sequence := by
  unfold timesDeferred afterChain
  dsimp only
  split <;> rfl

theorem occurrences_deferred (worker : Fin numShards) (sequence : Int) :
    occurrences (runtime.handlers worker).deferred sequence = runtime.timesDeferred worker sequence :=
  rfl

section

variable (accounting : runtime.Accounting) (fresh : ∀ other ∈ runtime.pipeline.handled, other.sequence ≠ entry.sequence)
  (logged : pipeline.handled = runtime.pipeline.handled ++ [entry])
include accounting fresh logged

/-- A chain handles one sequence. Of every other one, what is in the queue of the worker stays
there or goes into a batch. -/
private theorem Accounting.chained {effect}
    (placed : (runtime.afterChain pipeline entry.worker effect).Placed entry.worker entry.sequence)
    (results : ∀ sequence ≠ entry.sequence, effect.results sequence = runtime.results sequence)
    (counts : ∀ sequence ≠ entry.sequence, (occurrences effect.dispatched.toList.flatten sequence,
        occurrences effect.handler.deferred sequence) ∈ [(0, runtime.timesDeferred entry.worker sequence),
            (runtime.timesDeferred entry.worker sequence, 0)]) :
    (runtime.afterChain pipeline entry.worker effect).Accounting := by
  have batched := timesDispatched_afterChain runtime pipeline entry.worker effect
  have queued := fun other => timesDeferred_afterChain runtime pipeline entry.worker other effect
  have decided : ∀ sequence ≠ entry.sequence, (runtime.afterChain pipeline entry.worker
      effect).results sequence = runtime.results sequence := results
  constructor
  · intro other member
    change other ∈ pipeline.handled at member
    rw [logged, List.mem_append, List.mem_singleton] at member
    rcases member with old | rfl
    · have before := accounting.handled other old
      have different := fresh other old
      rw [Placed, batched, decided _ different]
      simp only [queued]
      rcases List.mem_pair.mp (counts _ different) with same | same
      · obtain ⟨none, stay⟩ := Prod.mk.inj same
        have unmoved : ∀ worker, (if worker = entry.worker then runtime.timesDeferred entry.worker
            other.sequence else runtime.timesDeferred worker other.sequence) = runtime.timesDeferred worker other.sequence :=
          fun worker => ite_eq_right_iff.mpr fun own => own ▸ rfl
        simp only [none, stay, unmoved]
        exact before
      · obtain ⟨all, left⟩ := Prod.mk.inj same
        rw [all, left]
        exact before.flush entry.worker
    · exact placed
  · intro sequence none
    change ∀ other ∈ pipeline.handled, _ at none
    rw [logged] at none
    have different : sequence ≠ entry.sequence := fun same => none entry (by simp) same.symm
    have old := accounting.unhandled sequence fun other member => none other (by simp [member])
    have zero := List.mem_pair.mp (counts sequence different)
    rw [old.queued, or_self, Prod.mk.injEq] at zero
    refine ⟨?_, fun worker => ?_, (decided sequence different).trans old.undecided⟩
    · rw [batched, old.batched, zero.1]
    · rw [queued, zero.2, old.queued, ite_self]

private theorem accounting_rejected {reason} :
    (runtime.afterChain pipeline entry.worker ⟨runtime.handlers entry.worker,
      runtime.results.insert entry.sequence (.rejected reason), none⟩).Accounting := by
  have untouched := accounting.unhandled entry.sequence fresh
  refine accounting.chained fresh logged ?_ (fun _ => Results.insert_other _) (by simp [occurrences_deferred])
  refine .rejected ?_ (fun worker => ?_) ⟨reason, if_pos rfl⟩
  · simp [timesDispatched_afterChain, untouched.batched]
  · simp [timesDeferred_afterChain, occurrences_deferred, untouched.queued]

private theorem accounting_deferred {startedAt} : (runtime.afterChain pipeline entry.worker
      ⟨⟨startedAt, (runtime.handlers entry.worker).deferred ++ [(entry.sequence, transfer)]⟩,
        runtime.results, none⟩).Accounting := by
  have untouched := accounting.unhandled entry.sequence fresh
  refine accounting.chained fresh logged ?_ (fun _ _ => rfl) fun sequence different => ?_
  · refine .deferred ?_ ?_ fun worker other => ?_
    · simp [timesDispatched_afterChain, untouched.batched]
    · simp [timesDeferred_afterChain, occurrences_append, occurrences_singleton, occurrences_deferred, untouched.queued]
    · rw [timesDeferred_afterChain, if_neg other, untouched.queued]
  · simp [occurrences_append, occurrences_singleton, different.symm, occurrences_deferred]

private theorem accounting_flushed : (runtime.afterChain pipeline entry.worker ⟨⟨none, []⟩, runtime.results,
      some ((runtime.handlers entry.worker).deferred ++ [(entry.sequence, transfer)])⟩).Accounting := by
  have untouched := accounting.unhandled entry.sequence fresh
  refine accounting.chained fresh logged ?_ (fun _ _ => rfl) fun sequence different => ?_
  · refine .dispatched ?_ fun worker => ?_
    · simp [timesDispatched_afterChain, occurrences_append, occurrences_singleton,
        occurrences_deferred, untouched.batched, untouched.queued]
    · simp [timesDeferred_afterChain, untouched.queued]
  · simp [occurrences_append, occurrences_singleton, different.symm, occurrences_deferred]

end

/-- A recorded sequence was dispatched, so the result of a refused one stays. -/
private theorem accounting_recorded {next replies sequence reply}
    (accounting : runtime.Accounting) (found : runtime.tasks[index]? = some ⟨batch, .recording replies next⟩)
    (entry : (batch.zip replies)[next]? = some ((sequence, transfer), reply)) :
    ({ runtime.setTask index ⟨batch, .recording replies (next + 1)⟩ with
      results := runtime.results.insert sequence (resultOf reply) } : Runtime Task Tag numShards).Accounting := by
  have inBatch : (sequence, transfer) ∈ batch :=
    (List.of_mem_zip (List.mem_of_getElem? entry)).1
  have sameBatches := dispatched_setTask (.recording replies (next + 1)) found
  have moved : (runtime.setTask index ⟨batch, .recording replies (next + 1)⟩).Accounting :=
    accounting.congr rfl rfl sameBatches rfl
  have elsewhere : ∀ candidate, (runtime.setTask index
      ⟨batch, .recording replies (next + 1)⟩).timesDispatched candidate = 0 → candidate ≠ sequence := by
    intro candidate never same
    subst same
    have batched := timesDispatched_pos (mem_dispatched found inBatch)
    rw [timesDispatched, sameBatches] at never
    exact absurd batched (by simp [timesDispatched, never])
  constructor
  · intro other member
    cases moved.handled other member with
    | dispatched once gone => exact .dispatched once gone
    | deferred never once elsewhere => exact .deferred never once elsewhere
    | rejected never gone refused =>
      obtain ⟨reason, known⟩ := refused
      exact .rejected never gone ⟨reason, (Results.insert_other _ (elsewhere _ never)).trans known⟩
  · intro candidate none
    have untouched := moved.unhandled candidate none
    refine ⟨untouched.batched, untouched.queued, ?_⟩
    exact (Results.insert_other _ (elsewhere _ untouched.batched)).trans untouched.undecided

theorem accounting_started (pipeline : Pipeline Task (Job Tag) numShards)
    (unused : pipeline.handled = []) : (started pipeline).Accounting where
  handled entry member := by
    change entry ∈ pipeline.handled at member
    rw [unused] at member
    cases member
  unhandled sequence _ := ⟨rfl, fun _ => rfl, rfl⟩

theorem untouched_of_taken {cursor : Int} (onStride : runtime.pipeline.OnStride) (accounting : runtime.Accounting)
    (taken : runtime.pipeline.nextHandled worker cursor = some entry) : runtime.Untouched entry.sequence :=
  accounting.unhandled entry.sequence fun _ member => onStride.taken_unhandled taken member

section Steps

variable [ExternalCrates] {runtime : Runtime Task Tag numShards} {risk : RiskHandler}

theorem chain_of_taken {cursor : Int} (risk : RiskHandler)
    (transferId : TransferId) (now : Nat) (onStride : runtime.pipeline.OnStride) (accounting : runtime.Accounting)
    (taken : runtime.pipeline.nextHandled worker cursor = some entry) :
    entry.worker = worker ∧ runtime.Untouched entry.sequence ∧ ChainCase risk runtime entry transferId now := by
  have untouched := untouched_of_taken onStride accounting taken
  exact ⟨(Pipeline.nextHandled_some taken).1, untouched, chainCase transferId now untouched.undecided⟩

variable [DecidableEq Task]

theorem Accounting.step {label} (accounting : runtime.Accounting) (onStride : runtime.pipeline.OnStride)
    (stepped : runtime.step risk label = some next) : next.Accounting := by
  cases step_moves stepped with
  | pipeline other moved =>
    exact accounting.congr (Pipeline.handled_of_step other moved) rfl rfl rfl
  | drained draining done moved =>
    cases Pipeline.step_drain_none draining done moved
    exact accounting.congr rfl rfl rfl rfl
  | @handled _ _ transferId now _ entry draining taken _ moved =>
    cases Pipeline.step_drain_some draining taken moved
    have fresh : ∀ other ∈ runtime.pipeline.handled, other.sequence ≠ entry.sequence :=
      fun _ member => onStride.taken_unhandled taken member
    obtain ⟨rfl, _, went⟩ := chain_of_taken risk transferId now onStride accounting taken
    cases went with rw [effect]
    | rejected _ effect =>
      exact accounting_rejected accounting fresh rfl
    | deferred _ _ effect =>
      exact accounting_deferred accounting fresh rfl
    | flushed _ effect =>
      exact accounting_flushed accounting fresh rfl
  | attempted found | finished found =>
    exact accounting.congr rfl rfl (dispatched_setTask _ found) rfl
  | recorded found entry => exact accounting_recorded accounting found entry

theorem accounting_of_reachable {capacity blank state} (built : Pipeline.build Task numShards capacity blank = .ok pipeline)
    (reached : (system risk).Reachable (started pipeline) state) : state.pipeline.OnStride ∧ state.Accounting := by
  refine reached.invariant (fun runtime => runtime.pipeline.OnStride ∧ runtime.Accounting) ?_ ?_
  · refine ⟨Pipeline.onStride_of_reachable built .refl, accounting_started pipeline ?_⟩
    obtain ⟨_, rfl⟩ := Pipeline.build_eq built
    rfl
  · intro before label after _ stepped invariant
    obtain ⟨onStride, accounting⟩ := invariant
    refine ⟨?_, accounting.step onStride stepped⟩
    rcases (step_moves stepped).project with same | ⟨_, _, moved⟩
    · exact same ▸ onStride
    · exact onStride.step moved

end Steps

end Runtime

end Blazil.Engine
