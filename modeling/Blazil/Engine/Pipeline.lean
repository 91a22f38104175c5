import Blazil.Engine.RingBuffer
import Blazil.Foundation.Stride
import Blazil.Foundation.Transition

/-! The pipeline of `core/engine/src/pipeline.rs`: tasks that publish events into a shared ring
buffer and worker loops that pass them to their handlers. A step is one atomic access to shared
state, so a run is an interleaving of such accesses. Which sequences the workers of a pipeline pass
to their handlers. Nothing here depends on how the publishing tasks interleave. -/

set_option autoImplicit false

variable {capacity : Nat} {cursor : Int}

namespace Blazil.Engine

open Blazil.Common Foundation

inductive Publisher (Event : Type) where
  | idle
  | checked (event : Event)
  | claimed (event : Event) (sequence : Int)
  | written (event : Event) (sequence : Int)
deriving DecidableEq

def Publisher.event? {Event : Type} : Publisher Event → Option Event
  | .idle => none
  | .checked event | .claimed event _ | .written event _ => some event

/-- Where a worker is in its loop. After a read of the cursor it either drains up to
the value it saw or, with nothing new, looks at the shutdown flag. -/
inductive WorkerPhase where
  | polling
  | checkingShutdown
  | draining (cursor : Int)
  | gating
  | exited
deriving DecidableEq

structure Worker where
  consumerSeq : Int
  phase : WorkerPhase
deriving DecidableEq

structure Handled (Event : Type) (numShards : Nat) where
  worker : Fin numShards
  sequence : Int
  event : Event
  endOfBatch : Bool
deriving DecidableEq

structure Published (Task Event : Type) where
  task : Task
  sequence : Int
  event : Event
deriving DecidableEq

structure Pipeline (Task Event : Type) (numShards : Nat) where
  ring : RingBuffer Event numShards
  publishers : Task → Publisher Event
  workers : Fin numShards → Worker
  shutdown : Bool
  published : List (Published Task Event)
  handled : List (Handled Event numShards)

inductive PipelineLabel (Task Event : Type) (numShards : Nat) where
  | check (task : Task) (event : Event)
  | claim (task : Task)
  | write (task : Task)
  | publish (task : Task)
  | stop
  | poll (worker : Fin numShards)
  | checkShutdown (worker : Fin numShards)
  | drain (worker : Fin numShards)
  | gate (worker : Fin numShards)

namespace Pipeline

variable {Task Event : Type} {numShards : Nat}

def started (Task : Type) (ring : RingBuffer Event numShards) : Pipeline Task Event numShards where
  ring := ring
  publishers := fun _ => .idle
  workers := fun worker => ⟨worker.val - 1, .polling⟩
  shutdown := false
  published := []
  handled := []

/-- `PipelineBuilder::build`, followed by the start of every runner. -/
def build (Task : Type) (numShards capacity : Nat) (blank : Nat → Event) : BlazerResult (Pipeline Task Event numShards) :=
  (RingBuffer.new numShards capacity blank).map (started Task)

@[simps]
def setRing (pipeline : Pipeline Task Event numShards) (ring : RingBuffer Event numShards) : Pipeline Task Event numShards :=
  { pipeline with ring := ring }

@[simps]
def recordPublished (pipeline : Pipeline Task Event numShards) (entry : Published Task Event) : Pipeline Task Event numShards :=
  { pipeline with published := pipeline.published ++ [entry] }

@[simps]
def recordHandled (pipeline : Pipeline Task Event numShards) (entry : Handled Event numShards) : Pipeline Task Event numShards :=
  { pipeline with handled := pipeline.handled ++ [entry] }

@[simps]
def setPublisher [DecidableEq Task] (pipeline : Pipeline Task Event numShards) (task : Task)
    (publisher : Publisher Event) : Pipeline Task Event numShards :=
  { pipeline with
    publishers := fun other => if other = task then publisher else pipeline.publishers other }

@[simps]
def setWorker (pipeline : Pipeline Task Event numShards) (worker : Fin numShards) (next : Worker) :
    Pipeline Task Event numShards :=
  { pipeline with
    workers := fun other => if other = worker then next else pipeline.workers other }

/-- The next event a draining worker takes up, unless its stride passes the cursor
value it read. -/
def nextHandled (pipeline : Pipeline Task Event numShards) (worker : Fin numShards) (cursor : Int) :
    Option (Handled Event numShards) :=
  let current := (pipeline.workers worker).consumerSeq
  let sequence := current + numShards
  if current < cursor ∧ sequence ≤ cursor then
    some ⟨worker, sequence, pipeline.ring.get sequence, cursor - (numShards - 1) ≤ sequence⟩
  else none

theorem build_eq {blank : Nat → Event} {start : Pipeline Task Event numShards}
    (built : build Task numShards capacity blank = .ok start) :
    ∃ power : isPowerOfTwo capacity = true, start = started Task (RingBuffer.fresh numShards power blank) := by
  unfold build RingBuffer.new at built
  split at built
  · next power =>
    cases built
    exact ⟨power, rfl⟩
  · cases built

variable {pipeline : Pipeline Task Event numShards} {worker : Fin numShards}

theorem nextHandled_some {entry} (taken : pipeline.nextHandled worker cursor = some entry) :
    entry.worker = worker ∧ entry.sequence = (pipeline.workers worker).consumerSeq + numShards ∧
      entry.event = pipeline.ring.get entry.sequence ∧ entry.sequence ≤ cursor ∧
      (entry.endOfBatch = true ↔ cursor < entry.sequence + numShards) := by
  unfold nextHandled at taken
  dsimp only at taken
  split at taken
  · next within =>
    cases taken
    refine ⟨rfl, rfl, rfl, within.2, ?_⟩
    simp only [decide_eq_true_eq]
    omega
  · cases taken

theorem nextHandled_none (positive : 0 < numShards) (done : pipeline.nextHandled worker cursor = none) :
    cursor < (pipeline.workers worker).consumerSeq + numShards := by
  unfold nextHandled at done
  dsimp only at done
  split at done
  · cases done
  · omega

section Steps

variable [DecidableEq Task]

def step (pipeline : Pipeline Task Event numShards) : PipelineLabel Task Event numShards → Option (Pipeline Task Event numShards)
  | .check task event =>
    match pipeline.publishers task with
    | .idle =>
      if pipeline.ring.hasAvailableCapacity then
        some (pipeline.setPublisher task (.checked event))
      else some pipeline
    | _ => none
  | .claim task =>
    match pipeline.publishers task with
    | .checked event =>
      some ((pipeline.setRing pipeline.ring.nextSequence).setPublisher task (.claimed event (pipeline.ring.claim + 1)))
    | _ => none
  | .write task =>
    match pipeline.publishers task with
    | .claimed event sequence =>
      some ((pipeline.setRing (pipeline.ring.write sequence event)).setPublisher task (.written event sequence))
    | _ => none
  | .publish task =>
    match pipeline.publishers task with
    | .written event sequence =>
      some (((pipeline.setRing (pipeline.ring.publish sequence)).recordPublished ⟨task, sequence, event⟩).setPublisher task .idle)
    | _ => none
  | .stop => some { pipeline with shutdown := true }
  | .poll worker =>
    match (pipeline.workers worker).phase with
    | .polling =>
      let current := (pipeline.workers worker).consumerSeq
      if current < pipeline.ring.cursor then
        some (pipeline.setWorker worker ⟨current, .draining pipeline.ring.cursor⟩)
      else some (pipeline.setWorker worker ⟨current, .checkingShutdown⟩)
    | _ => none
  | .checkShutdown worker =>
    match (pipeline.workers worker).phase with
    | .checkingShutdown =>
      some (pipeline.setWorker worker ⟨(pipeline.workers worker).consumerSeq, if pipeline.shutdown then .exited else .polling⟩)
    | _ => none
  | .drain worker =>
    match (pipeline.workers worker).phase with
    | .draining cursor =>
      match pipeline.nextHandled worker cursor with
      | some entry =>
        some ((pipeline.recordHandled entry).setWorker worker ⟨entry.sequence, .draining cursor⟩)
      | none =>
        some (pipeline.setWorker worker ⟨(pipeline.workers worker).consumerSeq, .gating⟩)
    | _ => none
  | .gate worker =>
    match (pipeline.workers worker).phase with
    | .gating =>
      let current := (pipeline.workers worker).consumerSeq
      some ((pipeline.setRing (pipeline.ring.setGate worker current)).setWorker worker ⟨current, .polling⟩)
    | _ => none

def system : System (Pipeline Task Event numShards) (PipelineLabel Task Event numShards) := ⟨step⟩

/-- Everything a step can do, with the guards under which it does it. -/
inductive Moves (pipeline : Pipeline Task Event numShards) :
    PipelineLabel Task Event numShards → Pipeline Task Event numShards → Prop where
  | full {task event} (idle : pipeline.publishers task = .idle)
      (full : ¬pipeline.ring.hasAvailableCapacity = true) :
      Moves pipeline (.check task event) pipeline
  | check {task event} (idle : pipeline.publishers task = .idle)
      (room : pipeline.ring.hasAvailableCapacity = true) :
      Moves pipeline (.check task event) (pipeline.setPublisher task (.checked event))
  | claim {task event} (checked : pipeline.publishers task = .checked event) :
      Moves pipeline (.claim task) ((pipeline.setRing pipeline.ring.nextSequence).setPublisher task
        (.claimed event (pipeline.ring.claim + 1)))
  | write {task event sequence} (claimed : pipeline.publishers task = .claimed event sequence) :
      Moves pipeline (.write task) ((pipeline.setRing (pipeline.ring.write sequence event)).setPublisher task
          (.written event sequence))
  | publish {task event sequence} (written : pipeline.publishers task = .written event sequence) :
      Moves pipeline (.publish task) (((pipeline.setRing (pipeline.ring.publish sequence)).recordPublished
          ⟨task, sequence, event⟩).setPublisher task .idle)
  | stop : Moves pipeline .stop { pipeline with shutdown := true }
  | poll {worker : Fin numShards} (polling : (pipeline.workers worker).phase = .polling)
      (newer : (pipeline.workers worker).consumerSeq < pipeline.ring.cursor) :
      Moves pipeline (.poll worker) (pipeline.setWorker worker
        ⟨(pipeline.workers worker).consumerSeq, .draining pipeline.ring.cursor⟩)
  | pollIdle {worker : Fin numShards} (polling : (pipeline.workers worker).phase = .polling)
      (current : ¬(pipeline.workers worker).consumerSeq < pipeline.ring.cursor) :
      Moves pipeline (.poll worker) (pipeline.setWorker worker ⟨(pipeline.workers worker).consumerSeq, .checkingShutdown⟩)
  | checkShutdown {worker : Fin numShards} (checking : (pipeline.workers worker).phase = .checkingShutdown) :
      Moves pipeline (.checkShutdown worker) (pipeline.setWorker worker
        ⟨(pipeline.workers worker).consumerSeq, if pipeline.shutdown then .exited else .polling⟩)
  | handle {worker cursor entry} (draining : (pipeline.workers worker).phase = .draining cursor)
      (taken : pipeline.nextHandled worker cursor = some entry) :
      Moves pipeline (.drain worker) ((pipeline.recordHandled entry).setWorker worker ⟨entry.sequence, .draining cursor⟩)
  | drained {worker : Fin numShards} {cursor} (draining : (pipeline.workers worker).phase = .draining cursor)
      (done : pipeline.nextHandled worker cursor = none) :
      Moves pipeline (.drain worker) (pipeline.setWorker worker ⟨(pipeline.workers worker).consumerSeq, .gating⟩)
  | gate {worker : Fin numShards} (gating : (pipeline.workers worker).phase = .gating) :
      Moves pipeline (.gate worker) ((pipeline.setRing (pipeline.ring.setGate worker
        (pipeline.workers worker).consumerSeq)).setWorker worker
        ⟨(pipeline.workers worker).consumerSeq, .polling⟩)

variable {pipeline next : Pipeline Task Event numShards} {label : PipelineLabel Task Event numShards} {worker : Fin numShards}

theorem step_moves (stepped : pipeline.step label = some next) : Moves pipeline label next := by
  cases label with simp only [step] at stepped
  | check | poll =>
    split at stepped
    · next found =>
      split at stepped
      · next test =>
        cases stepped
        constructor
        · exact found
        · exact test
      · next test =>
        cases stepped
        constructor
        · exact found
        · exact test
    · cases stepped
  | claim | write | publish | checkShutdown | gate =>
    split at stepped
    · next found =>
      cases stepped
      constructor
      exact found
    · cases stepped
  | stop =>
    cases stepped
    exact .stop
  | drain worker =>
    cases phase : (pipeline.workers worker).phase with
    | draining cursor =>
      cases taken : pipeline.nextHandled worker cursor with simp only [phase, taken, Option.some.injEq] at stepped
      | some =>
        subst next
        exact .handle phase taken
      | none =>
        subst next
        exact .drained phase taken
    | _ => simp [phase] at stepped

theorem Moves.step (moved : Moves pipeline label next) : pipeline.step label = some next := by
  cases moved <;> simp_all [Pipeline.step]

theorem step_drain_some {entry} (draining : (pipeline.workers worker).phase = .draining cursor)
    (taken : pipeline.nextHandled worker cursor = some entry) (stepped : pipeline.step (.drain worker) = some next) :
    next = (pipeline.recordHandled entry).setWorker worker ⟨entry.sequence, .draining cursor⟩ := by
  rw [(Moves.handle draining taken).step] at stepped
  exact (Option.some.inj stepped).symm

theorem step_drain_none (draining : (pipeline.workers worker).phase = .draining cursor)
    (done : pipeline.nextHandled worker cursor = none) (stepped : pipeline.step (.drain worker) = some next) :
    next = pipeline.setWorker worker ⟨(pipeline.workers worker).consumerSeq, .gating⟩ := by
  rw [(Moves.drained draining done).step] at stepped
  exact (Option.some.inj stepped).symm

theorem handled_of_step (other : ∀ worker, label ≠ .drain worker)
    (stepped : pipeline.step label = some next) : next.handled = pipeline.handled := by
  cases step_moves stepped with
  | @handle worker => exact absurd rfl (other worker)
  | _ => rfl

theorem draining_of_step (other : ∀ actor, label ≠ .drain actor) (stepped : pipeline.step label = some next)
    (draining : (pipeline.workers worker).phase = .draining cursor) : next.workers worker = pipeline.workers worker := by
  cases step_moves stepped with
  | @handle actor | @drained actor => exact absurd rfl (other actor)
  | poll polling | pollIdle polling | checkShutdown polling | gate polling =>
    simp only [setWorker_workers, setRing_workers]
    split
    · next same =>
      rw [← same, draining] at polling
      cases polling
    · rfl
  | _ => rfl

theorem publishers_of_step (begins : ∀ task event, label ≠ .check task event)
    (ends : ∀ task, label ≠ .publish task) (stepped : pipeline.step label = some next) :
    next.published = pipeline.published ∧ ∀ task, (next.publishers task).event? = (pipeline.publishers task).event? := by
  cases step_moves stepped with
  | @full task event | @check task event => exact absurd rfl (begins task event)
  | @publish task => exact absurd rfl (ends task)
  | @claim task event before | @write task event _ before =>
    refine ⟨rfl, fun other => ?_⟩
    by_cases same : other = task
    · simp [same, before, Publisher.event?]
    · simp [same]
  | _ => exact ⟨rfl, fun _ => rfl⟩

end Steps

end Pipeline

end Blazil.Engine

namespace Blazil.Engine.Pipeline

open Foundation Foundation.System

variable {Task Event : Type} {numShards : Nat}

def handledBy (pipeline : Pipeline Task Event numShards) (worker : Fin numShards) : List Int :=
  (pipeline.handled.filter fun entry => entry.worker = worker).map fun entry => entry.sequence

def timesHandled (pipeline : Pipeline Task Event numShards) (sequence : Int) : Nat :=
  pipeline.handled.countP fun entry => entry.sequence = sequence

def Drained (pipeline : Pipeline Task Event numShards) : Prop :=
  ∀ worker, pipeline.ring.cursor < (pipeline.workers worker).consumerSeq + numShards

instance (pipeline : Pipeline Task Event numShards) : Decidable pipeline.Drained :=
  inferInstanceAs (Decidable (∀ _, _))

/-- Every worker walks its own stride, starting one step after its initial value. -/
def OnStride (pipeline : Pipeline Task Event numShards) : Prop :=
  ∀ worker : Fin numShards, ∃ count : Nat, (pipeline.workers worker).consumerSeq = (worker.val : Int) - 1 + numShards * count ∧
      pipeline.handledBy worker = stride ((worker.val : Int) - 1) numShards count

theorem handledBy_recordHandled (pipeline : Pipeline Task Event numShards)
    (entry : Handled Event numShards) (worker : Fin numShards) : (pipeline.recordHandled entry).handledBy worker =
      pipeline.handledBy worker ++ if entry.worker = worker then [entry.sequence] else [] := by
  unfold handledBy
  by_cases same : entry.worker = worker <;> simp [same]

theorem sequence_mem_handledBy {pipeline : Pipeline Task Event numShards} {entry : Handled Event numShards}
    (member : entry ∈ pipeline.handled) : entry.sequence ∈ pipeline.handledBy entry.worker :=
  List.mem_map.mpr ⟨entry, List.mem_filter.mpr ⟨member, by simp⟩, rfl⟩

theorem onStride_started {power : isPowerOfTwo capacity = true}
    {blank : Nat → Event} : (started Task (RingBuffer.fresh numShards power blank)).OnStride :=
  fun worker => ⟨0, by simp [started], rfl⟩

section Runs

variable [DecidableEq Task] {pipeline next : Pipeline Task Event numShards} {label : PipelineLabel Task Event numShards}

theorem Moves.consumer (moved : Moves pipeline label next) (worker : Fin numShards) :
    ((next.workers worker).consumerSeq = (pipeline.workers worker).consumerSeq ∧
        next.handledBy worker = pipeline.handledBy worker) ∨
      ((next.workers worker).consumerSeq = (pipeline.workers worker).consumerSeq + numShards ∧ next.handledBy worker =
          pipeline.handledBy worker ++ [(pipeline.workers worker).consumerSeq + numShards]) := by
  cases moved with
  | @handle actor _ entry _ taken =>
    obtain ⟨owner, sequence, _⟩ := nextHandled_some taken
    by_cases same : worker = actor
    · subst same
      right
      constructor
      · simp [sequence]
      · change (pipeline.recordHandled entry).handledBy worker = _
        rw [handledBy_recordHandled, if_pos owner, sequence]
    · left
      constructor
      · simp [same]
      · change (pipeline.recordHandled entry).handledBy worker = _
        have other : entry.worker ≠ worker := fun equal => same (equal.symm.trans owner)
        rw [handledBy_recordHandled, if_neg other, List.append_nil]
  | poll | pollIdle | checkShutdown | drained | gate =>
    left
    refine ⟨?_, rfl⟩
    simp only [setWorker_workers, setRing_workers]
    split <;> simp_all
  | _ => exact .inl ⟨rfl, rfl⟩

theorem OnStride.step (onStride : pipeline.OnStride) (stepped : pipeline.step label = some next) : next.OnStride := by
  intro worker
  obtain ⟨count, position, history⟩ := onStride worker
  rcases (step_moves stepped).consumer worker with ⟨same, unchanged⟩ | ⟨advanced, extended⟩
  · exact ⟨count, same.trans position, unchanged.trans history⟩
  · refine ⟨count + 1, ?_, ?_⟩
    · rw [advanced, position]
      push_cast
      ring
    · rw [extended, history, position, stride_succ]
      congr 2
      ring

theorem onStride_of_reachable {blank : Nat → Event} {start state : Pipeline Task Event numShards}
    (built : build Task numShards capacity blank = .ok start) (reached : system.Reachable start state) : state.OnStride := by
  obtain ⟨_, rfl⟩ := build_eq built
  exact reached.invariant OnStride onStride_started fun _ _ _ _ stepped onStride => onStride.step stepped

end Runs

variable {pipeline : Pipeline Task Event numShards} {entry : Handled Event numShards}

theorem OnStride.handled_mem (onStride : pipeline.OnStride) (member : entry ∈ pipeline.handled) :
    ∃ index : Nat, entry.sequence = (entry.worker.val : Int) - 1 + numShards * ((index : Int) + 1) := by
  obtain ⟨_, _, history⟩ := onStride entry.worker
  have inHistory := sequence_mem_handledBy member
  rw [history, mem_stride] at inHistory
  obtain ⟨index, _, position⟩ := inHistory
  exact ⟨index, position⟩

variable {worker : Fin numShards} {sequence : Int}

theorem OnStride.next_unhandled (onStride : pipeline.OnStride)
    (member : entry ∈ pipeline.handled) : entry.sequence ≠ (pipeline.workers worker).consumerSeq + numShards := by
  intro same
  obtain ⟨count, position, history⟩ := onStride worker
  have next : entry.sequence = (worker.val : Int) - 1 + numShards * ((count : Int) + 1) := by
    rw [same, position]
    ring
  obtain ⟨_, entryPosition⟩ := onStride.handled_mem member
  have start := stride_start_unique (by omega) (by omega) (entryPosition.symm.trans next)
  have owner : entry.worker = worker := Fin.ext (by omega)
  have inHistory := sequence_mem_handledBy member
  rw [owner, history, mem_stride] at inHistory
  obtain ⟨earlier, _⟩ := inHistory
  have scaled : (numShards : Int) * ((earlier : Int) + 1) ≤ numShards * (count : Int) :=
    mul_le_mul_of_nonneg_left (by omega) (by omega)
  omega

theorem OnStride.taken_unhandled (onStride : pipeline.OnStride) {cursor other}
    (taken : pipeline.nextHandled worker cursor = some entry)
    (member : other ∈ pipeline.handled) : other.sequence ≠ entry.sequence := by
  obtain ⟨_, position, _⟩ := nextHandled_some taken
  rw [position]
  exact onStride.next_unhandled member

theorem OnStride.timesHandled_eq_count (onStride : pipeline.OnStride) (worker : Fin numShards) (index : Nat) :
    pipeline.timesHandled ((worker.val : Int) - 1 + numShards * ((index : Int) + 1)) = (pipeline.handledBy worker).count
        ((worker.val : Int) - 1 + numShards * ((index : Int) + 1)) := by
  unfold timesHandled handledBy
  rw [List.count, List.countP_map, List.countP_filter]
  apply List.countP_congr
  intro entry member
  simp only [Function.comp_apply, decide_eq_true_eq, beq_iff_eq, Bool.and_eq_true]
  constructor
  · intro same
    refine ⟨same, ?_⟩
    obtain ⟨_, position⟩ := onStride.handled_mem member
    have start := stride_start_unique (by omega) (by omega) (position.symm.trans same)
    exact Fin.ext (by omega)
  · exact fun both => both.1

theorem OnStride.timesHandled_le_one (onStride : pipeline.OnStride) (sequence : Int) : pipeline.timesHandled sequence ≤ 1 := by
  by_contra twice
  have some : 0 < pipeline.timesHandled sequence := by omega
  obtain ⟨entry, member, same⟩ := List.countP_pos_iff.mp some
  obtain ⟨_, position⟩ := onStride.handled_mem member
  obtain ⟨count, _, history⟩ := onStride entry.worker
  have distinct : (stride ((entry.worker.val : Int) - 1) numShards count).Nodup :=
    (stride_sorted entry.worker.pos count).imp fun less => less.ne
  have same : sequence = _ := (of_decide_eq_true same).symm.trans position
  rw [same, onStride.timesHandled_eq_count, history] at twice
  exact twice (List.nodup_iff_count_le_one.mp distinct _)

/-- Each sequence from the end of the first stride up to the cursor is handled exactly
once, by the worker of its residue class. -/
theorem OnStride.timesHandled_eq_one (onStride : pipeline.OnStride) (drained : pipeline.Drained)
    {index : Nat} (published : (worker.val : Int) - 1 + numShards * ((index : Int) + 1) ≤ pipeline.ring.cursor) :
    pipeline.timesHandled ((worker.val : Int) - 1 + numShards * ((index : Int) + 1)) = 1 := by
  obtain ⟨count, _, history⟩ := onStride worker
  rw [onStride.timesHandled_eq_count, history]
  apply count_stride worker.pos
  have limit := drained worker
  by_contra beyond
  have scaled : (numShards : Int) * (count : Int) ≤ numShards * (index : Int) :=
    mul_le_mul_of_nonneg_left (by omega) (by omega)
  rw [mul_add] at published
  omega

theorem OnStride.timesHandled_initial (onStride : pipeline.OnStride)
    (initial : sequence < numShards - 1) : pipeline.timesHandled sequence = 0 := by
  unfold timesHandled
  rw [List.countP_eq_zero]
  intro entry member
  obtain ⟨index, _⟩ := onStride.handled_mem member
  have scaled : (numShards : Int) * 1 ≤ numShards * ((index : Int) + 1) :=
    mul_le_mul_of_nonneg_left (by omega) (by omega)
  simp only [decide_eq_true_eq]
  omega

theorem OnStride.oneShard {pipeline : Pipeline Task Event 1} (onStride : pipeline.OnStride) (drained : pipeline.Drained)
    (nonneg : 0 ≤ sequence) (within : sequence ≤ pipeline.ring.cursor) : pipeline.timesHandled sequence = 1 := by
  have position : ((0 : Fin 1).val : Int) - 1 + (1 : Nat) * ((sequence.toNat : Int) + 1) =
      sequence := by
    omega
  have once := @OnStride.timesHandled_eq_one _ _ _ _ 0 onStride drained sequence.toNat (position.symm ▸ within)
  rwa [position] at once

/-- Once everything up to the cursor is consumed, every published sequence was handled
exactly once and each worker kept the order, if and only if there is one worker: with
more, the workers skip the sequences before their first stride. -/
theorem handledExactlyOnce_iff_oneShard [DecidableEq Task] {capacity : Nat} {blank : Nat → Event}
    {start state : Pipeline Task Event numShards} (positive : 0 < numShards)
    (built : build Task numShards capacity blank = .ok start) (reached : system.Reachable start state)
    (published : 0 ≤ state.ring.cursor) (drained : state.Drained) :
    ((∀ sequence, 0 ≤ sequence → sequence ≤ state.ring.cursor → state.timesHandled sequence = 1) ∧
        ∀ worker, (state.handledBy worker).Pairwise (· < ·)) ↔ numShards = 1 := by
  have onStride := onStride_of_reachable built reached
  constructor
  · intro property
    obtain ⟨once, _⟩ := property
    by_contra several
    have unhandled := onStride.timesHandled_initial (show (0 : Int) < numShards - 1 by omega)
    rw [once 0 (le_refl 0) published] at unhandled
    cases unhandled
  · intro single
    subst single
    constructor
    · exact fun sequence nonneg within => onStride.oneShard drained nonneg within
    · intro worker
      obtain ⟨count, _, history⟩ := onStride worker
      rw [history]
      exact stride_sorted positive count

def publishing (task : Task) (event : Event) : List (PipelineLabel Task Event numShards) :=
  [.check task event, .claim task, .write task, .publish task]

def working (worker : Fin numShards) (count : Nat) : List (PipelineLabel Task Event numShards) :=
  .poll worker :: List.replicate (count + 1) (.drain worker) ++ [.gate worker]

def twoShards : Pipeline Unit Nat 2 :=
  started Unit (RingBuffer.fresh 2 isPowerOfTwo_four fun _ => 0)

/-- A single task publishes two events, both workers are done, and nobody has handled
the first event. -/
theorem twoShards_first_unhandled : build Unit 2 4 (fun _ => 0) = .ok twoShards ∧
      ∃ state, system.Reachable twoShards state ∧ state.ring.cursor = 1 ∧ state.Drained ∧ state.timesHandled 0 = 0 :=
  ⟨rfl, exists_reachable_of_run system twoShards (publishing () 10 ++ publishing () 11 ++ working 0 1 ++ working 1 0)
    (fun state => state.ring.cursor = 1 ∧ state.Drained ∧ state.timesHandled 0 = 0)
    (by decide)⟩

def oneShard : Pipeline Unit Nat 1 :=
  started Unit (RingBuffer.fresh 1 isPowerOfTwo_four fun _ => 0)

theorem oneShard_built : build Unit 1 4 (fun _ => 0) = .ok oneShard := rfl

theorem oneShard_handledExactlyOnce : ∃ state, system.Reachable oneShard state ∧ state.ring.cursor = 1 ∧
      (((∀ sequence, 0 ≤ sequence → sequence ≤ state.ring.cursor → state.timesHandled sequence = 1) ∧
          ∀ worker, (state.handledBy worker).Pairwise (· < ·)) ↔ 1 = 1) := by
  obtain ⟨state, reached, cursor, drained⟩ := exists_reachable_of_run system oneShard
    (publishing () 10 ++ publishing () 11 ++ working 0 2)
    (fun state => state.ring.cursor = 1 ∧ state.Drained) (by decide)
  exact ⟨state, reached, cursor, handledExactlyOnce_iff_oneShard (by decide) oneShard_built reached (by omega) drained⟩

end Blazil.Engine.Pipeline
