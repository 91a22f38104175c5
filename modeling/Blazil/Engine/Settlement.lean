import Blazil.Engine.Accounting

/-! How a sequence is settled. A result is written once, and the ledger can commit a
transfer only while its sequence has no result; so what holds of the ledger when a
result appears stays as it is. -/

set_option autoImplicit false

namespace Blazil.Engine

open Blazil.Common Blazil.Ledger Foundation

def BatchTask.unrecorded (task : BatchTask) : List (Int × Transfer) :=
  match task.phase with
  | .running _ => task.batch
  | .recording _ next => task.batch.drop next
  | .finished _ => []

theorem BatchTask.unrecorded_subset {task : BatchTask} {item}
    (member : item ∈ task.unrecorded) : item ∈ task.batch := by
  unfold BatchTask.unrecorded at member
  split at member
  · exact member
  · exact List.mem_of_mem_drop member
  · cases member

theorem unrecorded_afterAttempt (batch : List (Int × Transfer)) (attempt : Nat) (replies : List (BlazerResult TransferId)) :
    (BatchTask.mk batch (.afterAttempt attempt replies)).unrecorded = batch := by
  unfold TaskPhase.afterAttempt
  split <;> rfl

namespace Runtime

variable {Task Tag : Type} {numShards : Nat}

def committedSequences (runtime : Runtime Task Tag numShards) : List Int :=
  runtime.committed.map fun item => item.1

variable {runtime : Runtime Task Tag numShards} {worker : Fin numShards} {item : Int × Transfer} {index next : Nat}
  {task : BatchTask} {sequence : Int} {pipeline : Pipeline Task (Job Tag) numShards} {transfer : Transfer}
  {batch : List (Int × Transfer)} {replies : List (BlazerResult TransferId)}

section

variable (accounting : runtime.Accounting)
include accounting

theorem Accounting.queued_not_dispatched (member : item ∈ (runtime.handlers worker).deferred) :
    runtime.timesDispatched item.1 = 0 := by
  have waiting : 0 < runtime.timesDeferred worker item.1 := occurrences_pos member
  by_cases known : ∃ entry ∈ runtime.pipeline.handled, entry.sequence = item.1
  · obtain ⟨entry, handled, same⟩ := known
    rw [← same] at waiting ⊢
    cases accounting.handled entry handled with
    | dispatched _ gone =>
      rw [gone worker] at waiting
      exact absurd waiting (Nat.lt_irrefl 0)
    | deferred never _ _ | rejected never _ _ => exact never
  · push Not at known
    rw [(accounting.unhandled item.1 known).queued worker] at waiting
    exact absurd waiting (Nat.lt_irrefl 0)

theorem Accounting.sequences_nodup : (runtime.tasks.map fun task => task.batch.map fun item => item.1).flatten.Nodup := by
  rw [List.nodup_iff_count_le_one]
  intro sequence
  have once := accounting.timesDispatched_le_one sequence
  have same : List.count sequence (runtime.tasks.map fun task => task.batch.map fun item => item.1).flatten =
        runtime.timesDispatched sequence := by
    rw [timesDispatched, occurrences, dispatched, List.count_eq_countP, List.countP_flatten,
      List.countP_flatten, List.map_map, List.map_map]
    congr 1
    apply List.map_congr_left
    intro task _
    simp only [Function.comp_apply, List.countP_map]
    rfl
  rw [same]
  exact once

theorem Accounting.keys_nodup (found : runtime.tasks[index]? = some task) : (task.batch.map fun item => item.1).Nodup :=
  (List.nodup_flatten.mp accounting.sequences_nodup).1 _ (List.mem_map.mpr ⟨task, List.mem_of_getElem? found, rfl⟩)

theorem Accounting.batches_disjoint {first second : Nat} {other : BatchTask} {otherItem}
    (different : first ≠ second) (found : runtime.tasks[first]? = some task) (otherFound : runtime.tasks[second]? = some other)
    (member : item ∈ task.batch) (otherMember : otherItem ∈ other.batch) : item.1 ≠ otherItem.1 := by
  intro same
  have disjoint := (List.nodup_flatten.mp accounting.sequences_nodup).2
  obtain ⟨inside, rfl⟩ := List.getElem?_eq_some_iff.mp found
  obtain ⟨otherInside, rfl⟩ := List.getElem?_eq_some_iff.mp otherFound
  have inFirst : item.1 ∈ (runtime.tasks[first]).batch.map fun item => item.1 :=
    List.mem_map.mpr ⟨item, member, rfl⟩
  have inSecond : item.1 ∈ (runtime.tasks[second]).batch.map fun item => item.1 :=
    List.mem_map.mpr ⟨otherItem, otherMember, same.symm⟩
  rw [List.pairwise_iff_getElem] at disjoint
  rcases Nat.lt_or_gt_of_ne different with before | after
  · have apart := disjoint first second (by simpa using inside) (by simpa using otherInside) before
    simp only [List.getElem_map] at apart
    exact apart inFirst inSecond
  · have apart := disjoint second first (by simpa using otherInside) (by simpa using inside) after
    simp only [List.getElem_map] at apart
    exact apart inSecond inFirst

theorem Accounting.batch_ahead {later} (found : runtime.tasks[index]? = some task)
    (position : task.batch[next]? = some item) (ahead : later ∈ task.batch.drop (next + 1)) : later.1 ≠ item.1 := by
  have distinct := accounting.keys_nodup found
  obtain ⟨inside, rfl⟩ := List.getElem?_eq_some_iff.mp position
  rw [← List.take_append_drop next task.batch, List.drop_eq_getElem_cons inside, List.map_append, List.map_cons] at distinct
  have fresh := (List.nodup_cons.mp (List.nodup_append.mp distinct).2.1).1
  intro same
  exact fresh (List.mem_map.mpr ⟨later, ahead, same⟩)

end

/-- What the ledger has committed was dispatched, and a sequence whose turn to be
recorded is still to come has no result. -/
structure Settling (runtime : Runtime Task Tag numShards) : Prop where
  dispatched : ∀ item ∈ runtime.committed, item ∈ runtime.dispatched
  queued : ∀ worker, ∀ item ∈ (runtime.handlers worker).deferred, runtime.results item.1 = none
  unrecorded : ∀ (index : Nat) (task : BatchTask), runtime.tasks[index]? = some task →
    ∀ item ∈ task.unrecorded, runtime.results item.1 = none

theorem Settling.committed_dispatched (settling : runtime.Settling)
    (member : sequence ∈ runtime.committedSequences) : 0 < runtime.timesDispatched sequence := by
  obtain ⟨item, committed, rfl⟩ := List.mem_map.mp member
  exact timesDispatched_pos (settling.dispatched item committed)

variable {effect : ChainEffect} {phase : TaskPhase} {reply : BlazerResult TransferId} {attempt : Nat}

theorem Settling.dispatched_kept (settling : runtime.Settling) :
    ∀ item ∈ (runtime.afterChain pipeline worker effect).committed,
      item ∈ (runtime.afterChain pipeline worker effect).dispatched := by
  intro item committed
  rw [dispatched_afterChain]
  exact List.mem_append_left _ (settling.dispatched item committed)

private theorem settling_chained (settling : runtime.Settling)
    (kept : ∀ other, ¬runtime.Untouched other → runtime.results other = none → effect.results other = none)
    (own : ∀ item ∈ effect.handler.deferred, effect.results item.1 = none)
    (sent : ∀ batch, effect.dispatched = some batch → ∀ item ∈ batch, effect.results item.1 = none) :
    (runtime.afterChain pipeline worker effect).Settling := by
  constructor
  · exact settling.dispatched_kept
  · intro other item member
    simp only [afterChain] at member ⊢
    split at member
    · exact own item member
    · exact kept _ (fun untouched => (occurrences_pos member).ne' (untouched.queued other)) (settling.queued other item member)
  · intro index task placed item member
    rcases task_of_afterChain placed with found | ⟨batch, flushed, rfl⟩
    · have batched :=
        timesDispatched_pos (mem_dispatched found (BatchTask.unrecorded_subset member))
      exact kept _ (fun untouched => batched.ne' untouched.batched) (settling.unrecorded index task found item member)
    · exact sent batch flushed item member

private theorem settling_setTask (next : TaskPhase)
    (settling : runtime.Settling) (found : runtime.tasks[index]? = some ⟨batch, phase⟩)
    (fewer : ∀ item ∈ (BatchTask.mk batch next).unrecorded, item ∈ (BatchTask.mk batch phase).unrecorded) :
    (runtime.setTask index ⟨batch, next⟩).Settling := by
  constructor
  · intro item committed
    rw [dispatched_setTask next found]
    exact settling.dispatched item committed
  · exact settling.queued
  · intro place task placed item member
    rcases task_of_setTask placed with ⟨_, rfl⟩ | ⟨_, other⟩
    · exact settling.unrecorded index _ found item (fewer item member)
    · exact settling.unrecorded place task other item member

private theorem settling_recorded (result : TransactionResult) (settling : runtime.Settling)
    (accounting : runtime.Accounting) (found : runtime.tasks[index]? = some ⟨batch, .recording replies next⟩)
    (position : batch[next]? = some (sequence, transfer)) :
    ({ runtime.setTask index ⟨batch, .recording replies (next + 1)⟩ with
      results := runtime.results.insert sequence result } : Runtime Task Tag numShards).Settling := by
  have inBatch : (sequence, transfer) ∈ batch := List.mem_of_getElem? position
  have kept : ∀ other, other ≠ sequence → runtime.results other = none → runtime.results.insert sequence result other = none :=
    fun other different undecided => (Results.insert_other result different).trans undecided
  constructor
  · intro item committed
    have same := dispatched_setTask (.recording replies (next + 1)) found
    exact same ▸ settling.dispatched item committed
  · intro worker item member
    refine kept _ (fun same => ?_) (settling.queued worker item member)
    have never := accounting.queued_not_dispatched member
    have batched := timesDispatched_pos (mem_dispatched found inBatch)
    rw [same] at never
    exact absurd batched (by simp [never])
  · intro place task placed item member
    rcases task_of_setTask placed with ⟨_, rfl⟩ | ⟨different, other⟩
    · refine kept _ (accounting.batch_ahead found position member) (settling.unrecorded index _ found item ?_)
      exact List.mem_of_mem_drop (by simpa [List.drop_drop, BatchTask.unrecorded] using member)
    · exact kept _ (accounting.batches_disjoint different other found (BatchTask.unrecorded_subset member) inBatch)
          (settling.unrecorded place task other item member)

theorem getElem?_of_zip (entry : (batch.zip replies)[next]? = some (item, reply)) : batch[next]? = some item :=
  (List.getElem?_zip_eq_some.mp entry).1

theorem Settling.recording_undecided (settling : runtime.Settling)
    (found : runtime.tasks[index]? = some ⟨batch, .recording replies next⟩)
    (position : batch[next]? = some (sequence, transfer)) : runtime.results sequence = none := by
  refine settling.unrecorded index _ found (sequence, transfer) ?_
  obtain ⟨inside, value⟩ := List.getElem?_eq_some_iff.mp position
  change (sequence, transfer) ∈ batch.drop next
  rw [List.drop_eq_getElem_cons inside, value]
  exact List.mem_cons_self

theorem Settling.running_undecided (settling : runtime.Settling)
    (found : runtime.tasks[index]? = some ⟨batch, .running attempt⟩) (member : item ∈ batch) : runtime.results item.1 = none :=
  settling.unrecorded index _ found item member

section Steps

variable [ExternalCrates] [DecidableEq Task] {risk : RiskHandler} {runtime next : Runtime Task Tag numShards}
  {label : RuntimeLabel Task Tag numShards} {result : TransactionResult}

section

variable (settling : runtime.Settling) (onStride : runtime.pipeline.OnStride) (accounting : runtime.Accounting)
  (stepped : runtime.step risk label = some next)
include settling onStride accounting stepped

theorem Settling.step : next.Settling := by
  cases step_moves stepped with
  | pipeline | drained => exact ⟨settling.dispatched, settling.queued, settling.unrecorded⟩
  | @handled _ _ transferId now _ entry _ taken _ _ =>
    obtain ⟨rfl, untouched, went⟩ := chain_of_taken risk transferId now onStride accounting taken
    cases went with rw [effect]
    | @rejected reason _ effect =>
      have kept : ∀ other, ¬runtime.Untouched other → runtime.results other = none →
          runtime.results.insert entry.sequence (.rejected reason) other = none := by
        intro other touched undecided
        have different : other ≠ entry.sequence := fun same => touched (same ▸ untouched)
        exact (Results.insert_other _ different).trans undecided
      refine settling_chained settling kept (fun item member => ?_) nofun
      exact kept _ (fun fresh => (occurrences_pos member).ne' (fresh.queued entry.worker))
        (settling.queued entry.worker item member)
    | deferred _ _ effect =>
      exact settling_chained settling (fun _ _ undecided => undecided)
        (holds_after_concat (settling.queued entry.worker) untouched.undecided) nofun
    | flushed _ effect =>
      refine settling_chained settling (fun _ _ undecided => undecided) (List.forall_mem_nil _) ?_
      rintro _ ⟨⟩
      exact holds_after_concat (settling.queued entry.worker) untouched.undecided
  | @attempted _ attempt _ _ replies found _ within =>
    have same := settling_setTask (.afterAttempt attempt replies) settling found
      fun item member => by rwa [unrecorded_afterAttempt] at member
    refine ⟨?_, same.queued, same.unrecorded⟩
    intro item committed
    have unchanged := dispatched_setTask (.afterAttempt attempt replies) found
    rcases List.mem_append.mp committed with old | new
    · exact unchanged ▸ settling.dispatched item old
    · exact unchanged ▸ mem_dispatched found (within item new)
  | recorded found entry =>
    exact settling_recorded _ settling accounting found (getElem?_of_zip entry)
  | finished found =>
    exact settling_setTask _ settling found fun item member => by cases member

theorem Settling.results_kept
    (known : runtime.results sequence = some result) : next.results sequence = some result := by
  have insertKept : ∀ other inserted, runtime.results other = none →
      runtime.results.insert other inserted sequence = some result := by
    intro other inserted undecided
    have different : sequence ≠ other := by
      intro same
      subst same
      rw [undecided] at known
      cases known
    exact (Results.insert_other inserted different).trans known
  cases step_moves stepped with
  | pipeline | drained | attempted | finished => exact known
  | @handled _ _ transferId now _ _ _ taken _ _ =>
    obtain ⟨rfl, untouched, went⟩ := chain_of_taken risk transferId now onStride accounting taken
    cases went with rw [effect]
    | rejected _ effect =>
      exact insertKept _ _ untouched.undecided
    | deferred _ _ effect | flushed _ effect =>
      exact known
  | recorded found entry =>
    exact insertKept _ _ (settling.recording_undecided found (getElem?_of_zip entry))

end

theorem Settling.committed_kept (settling : runtime.Settling)
    (stepped : runtime.step risk label = some next) (known : runtime.results sequence = some result)
    (member : sequence ∈ next.committedSequences) : sequence ∈ runtime.committedSequences := by
  cases step_moves stepped with
  | pipeline | drained | handled | recorded | finished => exact member
  | attempted found _ within =>
    rw [committedSequences, List.map_append, List.mem_append] at member
    rcases member with old | new
    · exact old
    · obtain ⟨item, applied, rfl⟩ := List.mem_map.mp new
      rw [settling.running_undecided found (within item applied)] at known
      cases known

end Steps

def endsRetries : TaskPhase → List (BlazerResult TransferId) → Bool
  | .running attempt, replies => !allTransient replies || maxTransientRetries ≤ attempt
  | _, _ => false

/-- The ledger is reliable: when an attempt ends the retry loop, it reports a failure
only for transfers that neither it nor an earlier attempt has committed. -/
def Reliable (runtime : Runtime Task Tag numShards) : RuntimeLabel Task Tag numShards → Prop
  | .attempt index applied replies =>
    ∀ task ∈ runtime.tasks[index]?, endsRetries task.phase replies = true → ∀ pair ∈ task.batch.zip replies, pair.2.isOk = false →
        pair.1.1 ∉ runtime.committedSequences ++ applied.map fun item => item.1
  | _ => True

instance (runtime : Runtime Task Tag numShards) (label : RuntimeLabel Task Tag numShards) : Decidable (runtime.Reliable label) :=
  match label with
  | .attempt index _ _ =>
    inferInstanceAs (Decidable (∀ task ∈ runtime.tasks[index]?, _ → ∀ pair ∈ _, _ → _))
  | .pipeline _ | .drain _ _ _ | .record _ => .isTrue trivial

theorem replies_afterAttempt (attempt : Nat) (replies : List (BlazerResult TransferId)) :
    (TaskPhase.afterAttempt attempt replies).replies =
      if endsRetries (.running attempt) replies then replies else [] := by
  unfold TaskPhase.afterAttempt endsRetries
  split <;> rfl

/-- A failure in the final replies, or a rejection among the results, means that the
ledger has not committed the transfer. -/
structure Truthful (runtime : Runtime Task Tag numShards) : Prop where
  answered : ∀ (index : Nat) (task : BatchTask), runtime.tasks[index]? = some task →
    ∀ pair ∈ task.batch.zip task.phase.replies, pair.2.isOk = false → pair.1.1 ∉ runtime.committedSequences
  rejected : ∀ sequence reason, runtime.results sequence = some (.rejected reason) → sequence ∉ runtime.committedSequences

private theorem answered_setTask (next : TaskPhase) (truthful : runtime.Truthful)
    (found : runtime.tasks[index]? = some ⟨batch, phase⟩) (same : next.replies = phase.replies) (place : Nat)
    (task : BatchTask) (placed : (runtime.setTask index ⟨batch, next⟩).tasks[place]? = some task) :
    ∀ pair ∈ task.batch.zip task.phase.replies, pair.2.isOk = false → pair.1.1 ∉ runtime.committedSequences := by
  rcases task_of_setTask placed with ⟨_, rfl⟩ | ⟨_, other⟩
  · simpa only [same] using truthful.answered index _ found
  · exact truthful.answered place task other

section

variable (truthful : runtime.Truthful)
include truthful

private theorem answered_afterChain (index : Nat)
    (task : BatchTask) (placed : (runtime.afterChain pipeline worker effect).tasks[index]? = some task) :
    ∀ pair ∈ task.batch.zip task.phase.replies, pair.2.isOk = false → pair.1.1 ∉ runtime.committedSequences := by
  rcases task_of_afterChain placed with found | ⟨_, _, rfl⟩
  · exact truthful.answered index task found
  · simp [TaskPhase.replies]

private theorem truthful_attempted {applied}
    (accounting : runtime.Accounting) (settling : runtime.Settling) (reliable : runtime.Reliable (.attempt index applied replies))
    (found : runtime.tasks[index]? = some ⟨batch, .running attempt⟩) (within : ∀ item ∈ applied, item ∈ batch) :
    ({ runtime.setTask index ⟨batch, .afterAttempt attempt replies⟩ with
      committed := runtime.committed ++ applied } : Runtime Task Tag numShards).Truthful := by
  have extended : ∀ sequence, sequence ∉ runtime.committedSequences → (∀ item ∈ applied, item.1 ≠ sequence) →
      sequence ∉ (runtime.committed ++ applied).map fun item => item.1 := by
    intro sequence before apart member
    rw [List.map_append, List.mem_append] at member
    rcases member with old | new
    · exact before old
    · obtain ⟨item, fresh, same⟩ := List.mem_map.mp new
      exact apart item fresh same
  constructor
  · intro place task placed pair member failed
    rcases task_of_setTask placed with ⟨_, rfl⟩ | ⟨different, other⟩
    · rw [replies_afterAttempt] at member
      split at member
      · next ends =>
        have apart := reliable _ found ends pair member failed
        rwa [committedSequences, ← List.map_append] at apart
      · simp at member
    · refine extended _ (truthful.answered place task other pair member failed) ?_
      intro item fresh
      exact accounting.batches_disjoint (Ne.symm different) found other (within item fresh) (List.of_mem_zip member).1
  · intro sequence reason known
    refine extended _ (truthful.rejected sequence reason known) ?_
    intro item fresh same
    subst same
    have undecided := settling.running_undecided found (within item fresh)
    rw [show runtime.results item.1 = some (.rejected reason) from known] at undecided
    cases undecided

private theorem truthful_recorded (found : runtime.tasks[index]? = some ⟨batch, .recording replies next⟩)
    (entry : (batch.zip replies)[next]? = some ((sequence, transfer), reply)) :
    ({ runtime.setTask index ⟨batch, .recording replies (next + 1)⟩ with
      results := runtime.results.insert sequence (resultOf reply) } : Runtime Task Tag numShards).Truthful := by
  constructor
  · exact answered_setTask _ truthful found rfl
  · intro other reason known
    simp only [Results.insert] at known
    split at known
    · next same =>
      subst same
      cases reply with
      | ok => cases known
      | error =>
        exact truthful.answered index _ found _ (List.mem_of_getElem? entry) rfl
    · exact truthful.rejected other reason known

end

section Steps

variable [ExternalCrates] [DecidableEq Task] {runtime next : Runtime Task Tag numShards} {label : RuntimeLabel Task Tag numShards}
  {risk : RiskHandler}

theorem Truthful.step (truthful : runtime.Truthful) (onStride : runtime.pipeline.OnStride)
    (accounting : runtime.Accounting) (settling : runtime.Settling) (reliable : runtime.Reliable label)
    (stepped : runtime.step risk label = some next) : next.Truthful := by
  cases step_moves stepped with
  | pipeline | drained => exact ⟨truthful.answered, truthful.rejected⟩
  | @handled _ _ transferId now _ _ _ taken _ _ =>
    obtain ⟨rfl, untouched, went⟩ := chain_of_taken risk transferId now onStride accounting taken
    cases went with rw [effect]
    | @rejected failure _ effect =>
      refine ⟨answered_afterChain truthful, ?_⟩
      intro sequence reason known committed
      simp only [afterChain, Results.insert] at known
      split at known
      · next same =>
        subst same
        have batched := settling.committed_dispatched committed
        exact absurd batched (by simp [untouched.batched])
      · exact truthful.rejected sequence reason known committed
    | deferred _ _ effect | flushed _ effect =>
      exact ⟨answered_afterChain truthful, truthful.rejected⟩
  | attempted found _ within =>
    exact truthful_attempted truthful accounting settling reliable found within
  | recorded found entry => exact truthful_recorded truthful found entry
  | finished found => exact ⟨answered_setTask _ truthful found rfl, truthful.rejected⟩

structure Invariant (runtime : Runtime Task Tag numShards) : Prop where
  onStride : runtime.pipeline.OnStride
  solo : runtime.pipeline.SoloInvariant
  accounting : runtime.Accounting
  settling : runtime.Settling

theorem Invariant.step (invariant : runtime.Invariant) (alone : runtime.Solo label)
    (stepped : runtime.step risk label = some next) : next.Invariant := by
  have accounting := invariant.accounting.step invariant.onStride stepped
  have settling := invariant.settling.step invariant.onStride invariant.accounting stepped
  rcases (step_moves stepped).project with same | ⟨_, permitted, moved⟩
  · exact ⟨same ▸ invariant.onStride, same ▸ invariant.solo, accounting, settling⟩
  · exact ⟨invariant.onStride.step moved, invariant.solo.step (permitted alone) moved, accounting, settling⟩

end Steps

theorem invariant_started {capacity blank}
    (built : Pipeline.build Task numShards capacity blank = .ok pipeline) : (started pipeline).Invariant := by
  obtain ⟨_, rfl⟩ := Pipeline.build_eq built
  refine ⟨Pipeline.onStride_started, Pipeline.soloInvariant_started, accounting_started _ rfl, ?_⟩
  exact ⟨by simp [started], by simp [started], by simp [started]⟩

theorem truthful_started (pipeline : Pipeline Task (Job Tag) numShards) : (started pipeline).Truthful :=
  ⟨by simp [started], by simp [started]⟩

end Runtime

end Blazil.Engine
