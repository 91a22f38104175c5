import Blazil.Engine.Settlement

/-! Where the results of dispatched transfers come from. A batch task writes the
ledger's final reply for each of its transfers, and a finished task has written all of
them. -/

set_option autoImplicit false

namespace Blazil.Engine.Runtime

open Blazil.Common Blazil.Ledger Foundation

variable {Task Tag : Type} {numShards : Nat}

/-- The reply with which the ledger settled the transfer of a sequence. -/
def Answered (runtime : Runtime Task Tag numShards) (sequence : Int) (reply : BlazerResult TransferId) : Prop :=
  ∃ (index : Nat) (task : BatchTask) (transfer : Transfer), runtime.tasks[index]? = some task ∧
    ((sequence, transfer), reply) ∈ task.batch.zip task.phase.replies

structure Recorded (runtime : Runtime Task Tag numShards) : Prop where
  counted : ∀ (index : Nat) batch replies next, runtime.tasks[index]? = some ⟨batch, .recording replies next⟩ →
      replies.length = batch.length
  written : ∀ (index : Nat) (task : BatchTask), runtime.tasks[index]? = some task →
    ∀ item ∈ task.batch, item ∈ task.unrecorded ∨ (runtime.results item.1).isSome = true
  answered : ∀ (index : Nat) (task : BatchTask), runtime.tasks[index]? = some task →
    ∀ item ∈ task.batch, ∀ result, runtime.results item.1 = some result →
      ∃ reply, (item, reply) ∈ task.batch.zip task.phase.replies ∧ result = resultOf reply

theorem recorded_started (pipeline : Pipeline Task (Job Tag) numShards) : (started pipeline).Recorded :=
  ⟨by simp [started], by simp [started], by simp [started]⟩

variable {runtime : Runtime Task Tag numShards} {index : Nat} {sequence : Int} {batch : List (Int × Transfer)}
  {replies : List (BlazerResult TransferId)} {task : BatchTask} {first second : BlazerResult TransferId}

section

variable (accounting : runtime.Accounting)
include accounting

theorem Accounting.batch_unique {first second}
    (found : runtime.tasks[index]? = some task) (firstMember : first ∈ task.batch) (secondMember : second ∈ task.batch)
    (same : first.1 = second.1) : first = second :=
  List.inj_on_of_nodup_map (accounting.keys_nodup found) firstMember secondMember same

theorem Accounting.reply_unique {item}
    (found : runtime.tasks[index]? = some task) (member : (item, first) ∈ task.batch.zip task.phase.replies)
    (again : (item, second) ∈ task.batch.zip task.phase.replies) : first = second := by
  obtain ⟨place, entry⟩ := List.mem_iff_getElem?.mp member
  obtain ⟨other, otherEntry⟩ := List.mem_iff_getElem?.mp again
  obtain ⟨position, reply⟩ := List.getElem?_zip_eq_some.mp entry
  obtain ⟨otherPosition, otherReply⟩ := List.getElem?_zip_eq_some.mp otherEntry
  have distinct : task.batch.Nodup := (accounting.keys_nodup found).of_map _
  have same : place = other := by
    obtain ⟨_, value⟩ := List.getElem?_eq_some_iff.mp position
    obtain ⟨_, otherValue⟩ := List.getElem?_eq_some_iff.mp otherPosition
    exact (List.Nodup.getElem_inj_iff distinct).mp (value.trans otherValue.symm)
  subst same
  rw [reply] at otherReply
  exact Option.some.inj otherReply

/-- A sequence is in one batch only, so the ledger has at most one final reply for it. -/
theorem Accounting.answered_unique
    (answered : runtime.Answered sequence first) (again : runtime.Answered sequence second) : first = second := by
  obtain ⟨index, _, _, found, member⟩ := answered
  obtain ⟨place, _, _, otherFound, otherMember⟩ := again
  have inBatch := (List.of_mem_zip member).1
  have inOther := (List.of_mem_zip otherMember).1
  have samePlace : index = place := by
    by_contra different
    exact accounting.batches_disjoint different found otherFound inBatch inOther rfl
  subst samePlace
  rw [found] at otherFound
  cases otherFound
  cases accounting.batch_unique found inBatch inOther rfl
  exact accounting.reply_unique found member otherMember

end

variable {next : Runtime Task Tag numShards}

section

variable (recorded : runtime.Recorded)
include recorded

private theorem Recorded.congr (tasks : next.tasks = runtime.tasks)
    (results : ∀ (index : Nat) (task : BatchTask), runtime.tasks[index]? = some task →
      ∀ item ∈ task.batch, next.results item.1 = runtime.results item.1) : next.Recorded := by
  constructor
  · rw [tasks]
    exact recorded.counted
  · intro index task placed item member
    rw [tasks] at placed
    rw [results index task placed item member]
    exact recorded.written index task placed item member
  · intro index task placed item member
    rw [tasks] at placed
    rw [results index task placed item member]
    exact recorded.answered index task placed item member

/-- A new task has no reply yet and its transfers have no result. -/
private theorem recorded_flushed {pipeline worker handler} (undecided : ∀ item ∈ batch, runtime.results item.1 = none) :
    (runtime.afterChain pipeline worker ⟨handler, runtime.results, some batch⟩).Recorded := by
  constructor
  · intro index batch replies next placed
    rcases task_of_afterChain placed with found | ⟨_, _, new⟩
    · exact recorded.counted index batch replies next found
    · cases new
  · intro index task placed item member
    rcases task_of_afterChain placed with found | ⟨_, _, rfl⟩
    · exact recorded.written index task found item member
    · exact .inl member
  · intro index task placed item member result known
    rcases task_of_afterChain placed with found | ⟨_, same, rfl⟩
    · exact recorded.answered index task found item member result known
    · cases same
      have unknown := undecided item member
      rw [show runtime.results item.1 = some result from known] at unknown
      cases unknown

private theorem recorded_attempted {attempt : Nat} (settling : runtime.Settling)
    (found : runtime.tasks[index]? = some ⟨batch, .running attempt⟩) (answered : replies.length = batch.length) :
    (runtime.setTask index ⟨batch, .afterAttempt attempt replies⟩).Recorded := by
  constructor
  · intro place other others next placed
    rcases task_of_setTask placed with ⟨_, same⟩ | ⟨_, kept⟩
    · unfold TaskPhase.afterAttempt at same
      split at same
      · cases same
        exact answered
      · cases same
    · exact recorded.counted place other others next kept
  · intro place task placed item member
    rcases task_of_setTask placed with ⟨_, rfl⟩ | ⟨_, kept⟩
    · left
      rw [unrecorded_afterAttempt]
      exact member
    · exact recorded.written place task kept item member
  · intro place task placed item member result known
    rcases task_of_setTask placed with ⟨_, rfl⟩ | ⟨_, kept⟩
    · have undecided := settling.running_undecided found member
      rw [show runtime.results item.1 = some result from known] at undecided
      cases undecided
    · exact recorded.answered place task kept item member result known

private theorem recorded_recorded {next transfer reply}
    (accounting : runtime.Accounting) (found : runtime.tasks[index]? = some ⟨batch, .recording replies next⟩)
    (entry : (batch.zip replies)[next]? = some ((sequence, transfer), reply)) :
    ({ runtime.setTask index ⟨batch, .recording replies (next + 1)⟩ with
      results := runtime.results.insert sequence (resultOf reply) } : Runtime Task Tag numShards).Recorded := by
  have position := getElem?_of_zip entry
  have inBatch : (sequence, transfer) ∈ batch := List.mem_of_getElem? position
  have apart : ∀ (place : Nat) (task : BatchTask), place ≠ index → runtime.tasks[place]? = some task → ∀ item ∈ task.batch,
        runtime.results.insert sequence (resultOf reply) item.1 = runtime.results item.1 := by
    intro place task different kept item member
    exact Results.insert_other _ (accounting.batches_disjoint different kept found member inBatch)
  constructor
  · intro place other others after placed
    rcases task_of_setTask placed with ⟨_, same⟩ | ⟨_, kept⟩
    · cases same
      exact recorded.counted index batch replies next found
    · exact recorded.counted place other others after kept
  · intro place task placed item member
    rcases task_of_setTask placed with ⟨_, rfl⟩ | ⟨different, kept⟩
    · by_cases own : item.1 = sequence
      · right
        simp [own, Results.insert_same]
      · rcases recorded.written index _ found item member with waiting | known
        · left
          obtain ⟨inside, value⟩ := List.getElem?_eq_some_iff.mp position
          change item ∈ batch.drop next at waiting
          rw [List.drop_eq_getElem_cons inside, value] at waiting
          rcases List.mem_cons.mp waiting with rfl | later
          · exact absurd rfl own
          · exact later
        · right
          simpa only [Results.insert_other _ own] using known
    · simp only [apart place task different kept item member]
      exact recorded.written place task kept item member
  · intro place task placed item member result known
    rcases task_of_setTask placed with ⟨_, rfl⟩ | ⟨different, kept⟩
    · by_cases own : item.1 = sequence
      · have same := accounting.batch_unique found member inBatch own
        subst same
        simp only [Results.insert_same, Option.some.injEq] at known
        exact ⟨reply, List.mem_of_getElem? entry, known.symm⟩
      · simp only [Results.insert_other _ own] at known
        exact recorded.answered index _ found item member result known
    · simp only [apart place task different kept item member] at known
      exact recorded.answered place task kept item member result known

private theorem recorded_finished {next : Nat} (found : runtime.tasks[index]? = some ⟨batch, .recording replies next⟩)
    (done : (batch.zip replies)[next]? = none) : (runtime.setTask index ⟨batch, .finished replies⟩).Recorded := by
  have counted := recorded.counted index batch replies next found
  have past : batch.length ≤ next := by
    rw [List.getElem?_eq_none_iff, List.length_zip, counted, Nat.min_self] at done
    exact done
  constructor
  · intro place other others after placed
    rcases task_of_setTask placed with ⟨_, same⟩ | ⟨_, kept⟩
    · cases same
    · exact recorded.counted place other others after kept
  · intro place task placed item member
    rcases task_of_setTask placed with ⟨_, rfl⟩ | ⟨_, kept⟩
    · rcases recorded.written index _ found item member with waiting | known
      · change item ∈ batch.drop next at waiting
        rw [List.drop_eq_nil_of_le past] at waiting
        cases waiting
      · exact .inr known
    · exact recorded.written place task kept item member
  · intro place task placed item member result known
    rcases task_of_setTask placed with ⟨_, rfl⟩ | ⟨_, kept⟩
    · exact recorded.answered index _ found item member result known
    · exact recorded.answered place task kept item member result known

end

section Steps

variable [ExternalCrates] [DecidableEq Task]

theorem Recorded.step {risk label} (recorded : runtime.Recorded) (invariant : runtime.Invariant)
    (stepped : runtime.step risk label = some next) : next.Recorded := by
  cases step_moves stepped with
  | pipeline | drained => exact recorded.congr rfl fun _ _ _ _ _ => rfl
  | @handled _ _ transferId now _ entry _ taken _ _ =>
    obtain ⟨rfl, untouched, went⟩ :=
      chain_of_taken risk transferId now invariant.onStride invariant.accounting taken
    cases went with rw [effect]
    | rejected _ effect =>
      refine recorded.congr (by simp [afterChain]) ?_
      intro index task found item member
      refine Results.insert_other _ fun same => ?_
      have batched := timesDispatched_pos (mem_dispatched found member)
      rw [same, untouched.batched] at batched
      exact absurd batched (Nat.lt_irrefl 0)
    | deferred _ _ effect =>
      exact recorded.congr (by simp [afterChain]) fun _ _ _ _ _ => rfl
    | flushed _ effect =>
      refine recorded_flushed recorded ?_
      exact holds_after_concat (invariant.settling.queued entry.worker) untouched.undecided
  | attempted found answered =>
    have kept := recorded_attempted recorded invariant.settling found answered
    exact ⟨kept.counted, kept.written, kept.answered⟩
  | recorded found entry => exact recorded_recorded recorded invariant.accounting found entry
  | finished found done => exact recorded_finished recorded found done

end Steps

theorem exists_task_of_dispatched (batched : 0 < runtime.timesDispatched sequence) :
    ∃ (index : Nat) (task : BatchTask) (transfer : Transfer),
      runtime.tasks[index]? = some task ∧ (sequence, transfer) ∈ task.batch := by
  obtain ⟨item, member, same⟩ := List.countP_pos_iff.mp batched
  obtain ⟨_, listed, inBatch⟩ := List.mem_flatten.mp member
  obtain ⟨task, present, rfl⟩ := List.mem_map.mp listed
  obtain ⟨index, found⟩ := List.mem_iff_getElem?.mp present
  have same : item.1 = sequence := of_decide_eq_true same
  exact ⟨index, task, item.2, found, same ▸ inBatch⟩

theorem Recorded.source (recorded : runtime.Recorded) (invariant : runtime.Invariant)
    {result} (known : runtime.results sequence = some result) :
    (∃ reply, runtime.Answered sequence reply ∧ result = resultOf reply) ∨
      runtime.timesDispatched sequence = 0 ∧ ∃ reason, result = .rejected reason := by
  by_cases handled : ∃ entry ∈ runtime.pipeline.handled, entry.sequence = sequence
  · obtain ⟨entry, member, rfl⟩ := handled
    cases invariant.accounting.handled entry member with
    | dispatched once =>
      left
      obtain ⟨index, task, transfer, found, inBatch⟩ :=
        exists_task_of_dispatched (Nat.lt_of_lt_of_eq Nat.one_pos once.symm)
      obtain ⟨reply, listed, same⟩ :=
        recorded.answered index task found _ inBatch result known
      exact ⟨reply, ⟨index, task, transfer, found, listed⟩, same⟩
    | deferred _ once =>
      obtain ⟨item, queued, same⟩ :=
        List.countP_pos_iff.mp (Nat.lt_of_lt_of_eq Nat.one_pos once.symm)
      have undecided := invariant.settling.queued entry.worker item queued
      rw [of_decide_eq_true same, known] at undecided
      cases undecided
    | rejected never _ refused =>
      obtain ⟨reason, refused⟩ := refused
      rw [refused] at known
      cases known
      exact .inr ⟨never, reason, rfl⟩
  · push Not at handled
    rw [(invariant.accounting.unhandled sequence handled).undecided] at known
    cases known

theorem Recorded.settled (recorded : runtime.Recorded) (invariant : runtime.Invariant) {entry}
    (member : entry ∈ runtime.pipeline.handled) (flushed : (runtime.handlers entry.worker).deferred = [])
    (finished : ∀ task ∈ runtime.tasks, task.phase.isActive = false) : (runtime.results entry.sequence).isSome = true := by
  cases invariant.accounting.handled entry member with
  | dispatched once =>
    obtain ⟨index, task, _, found, inBatch⟩ :=
      exists_task_of_dispatched (Nat.lt_of_lt_of_eq Nat.one_pos once.symm)
    rcases recorded.written index task found _ inBatch with waiting | known
    · have inactive := finished task (List.mem_of_getElem? found)
      obtain ⟨_, phase⟩ := task
      cases phase with
      | finished => cases waiting
      | running | recording => cases inactive
    · exact known
  | deferred _ once =>
    rw [timesDeferred, flushed] at once
    cases once
  | rejected _ _ refused =>
    obtain ⟨_, refused⟩ := refused
    rw [refused]
    rfl

end Blazil.Engine.Runtime
