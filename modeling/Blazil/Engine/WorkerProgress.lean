import Blazil.Engine.SoloPublishing
import Mathlib.Data.Fintype.Basic

/-! A worker that is left alone consumes everything up to the cursor. -/

set_option autoImplicit false

namespace Blazil.Engine

open Foundation.System

variable {Task Event : Type} {numShards : Nat}

def PipelineLabel.ByWorker (worker : Fin numShards) : PipelineLabel Task Event numShards → Prop
  | .poll actor | .checkShutdown actor | .drain actor | .gate actor => actor = worker
  | _ => False

namespace Pipeline

structure SameShared (before after : Pipeline Task Event numShards) : Prop where
  published : after.published = before.published
  cursor : after.ring.cursor = before.ring.cursor
  shutdown : after.shutdown = before.shutdown

theorem SameShared.refl (pipeline : Pipeline Task Event numShards) : SameShared pipeline pipeline :=
  ⟨rfl, rfl, rfl⟩

theorem SameShared.trans {first second third : Pipeline Task Event numShards}
    (before : SameShared first second) (after : SameShared second third) : SameShared first third :=
  ⟨after.published.trans before.published, after.cursor.trans before.cursor, after.shutdown.trans before.shutdown⟩

variable [DecidableEq Task]

def WorkerReaches (worker : Fin numShards) (pipeline : Pipeline Task Event numShards)
    (holds : Pipeline Task Event numShards → Prop) : Prop :=
  ∃ later, system.Reaches (fun _ label => label.ByWorker worker) pipeline later ∧ SameShared pipeline later ∧ holds later

variable {worker : Fin numShards} {pipeline : Pipeline Task Event numShards} {label : PipelineLabel Task Event numShards}
  {holds : Pipeline Task Event numShards → Prop}

theorem WorkerReaches.now (here : holds pipeline) : WorkerReaches worker pipeline holds :=
  ⟨pipeline, .refl, .refl pipeline, here⟩

theorem WorkerReaches.after {next : Pipeline Task Event numShards} (moved : Moves pipeline label next)
    (own : label.ByWorker worker) (same : SameShared pipeline next) (rest : WorkerReaches worker next holds) :
    WorkerReaches worker pipeline holds := by
  obtain ⟨later, reached, unchanged, goal⟩ := rest
  have first : system.Reaches (fun _ label => label.ByWorker worker) pipeline next :=
    .step .refl own moved.step
  exact ⟨later, first.trans reached, same.trans unchanged, goal⟩

theorem drain_completes {cursor : Int} : ∀ (fuel : Nat) (pipeline : Pipeline Task Event numShards),
      (pipeline.workers worker).phase = .draining cursor → cursor - (pipeline.workers worker).consumerSeq ≤ fuel →
      WorkerReaches worker pipeline fun later => (later.workers worker).phase = .gating ∧
        cursor < (later.workers worker).consumerSeq + numShards := by
  intro fuel
  induction fuel with
  | zero =>
    intro pipeline draining short
    have done : pipeline.nextHandled worker cursor = none := by
      unfold nextHandled
      rw [if_neg (by omega)]
    have beyond := nextHandled_none worker.pos done
    exact .after (.drained draining done) rfl ⟨rfl, rfl, rfl⟩ (.now (by simpa using beyond))
  | succ _ ih =>
    intro pipeline draining short
    have positive : 0 < numShards := worker.pos
    cases taken : pipeline.nextHandled worker cursor with
    | none =>
      have beyond := nextHandled_none positive taken
      exact .after (.drained draining taken) rfl ⟨rfl, rfl, rfl⟩ (.now (by simpa using beyond))
    | some =>
      obtain ⟨_, _⟩ := nextHandled_some taken
      refine .after (.handle draining taken) rfl ⟨rfl, rfl, rfl⟩ (ih _ (by simp) ?_)
      simp only [setWorker_workers, ↓reduceIte]
      omega

theorem returns_to_polling (running : pipeline.shutdown = false) (alive : (pipeline.workers worker).phase ≠ .exited) :
    WorkerReaches worker pipeline fun later => (later.workers worker).phase = .polling := by
  have fromGating : ∀ state : Pipeline Task Event numShards, (state.workers worker).phase = .gating →
      WorkerReaches worker state fun later => (later.workers worker).phase = .polling :=
    fun state gating => .after (.gate gating) rfl ⟨rfl, rfl, rfl⟩ (.now (by simp))
  cases phase : (pipeline.workers worker).phase with
  | polling => exact .now phase
  | checkingShutdown =>
    exact .after (.checkShutdown phase) rfl ⟨rfl, rfl, rfl⟩ (.now (by simp [running]))
  | draining cursor =>
    obtain ⟨middle, reached, same, gating, _⟩ := drain_completes
      (cursor - (pipeline.workers worker).consumerSeq).toNat pipeline phase (by omega)
    obtain ⟨later, onward, unchanged, polling⟩ := fromGating middle gating
    exact ⟨later, reached.trans onward, same.trans unchanged, polling⟩
  | gating => exact fromGating pipeline phase
  | exited => exact absurd phase alive

theorem worker_drains (running : pipeline.shutdown = false) (alive : (pipeline.workers worker).phase ≠ .exited) :
    WorkerReaches worker pipeline fun later =>
      later.ring.cursor < (later.workers worker).consumerSeq + numShards := by
  have positive : 0 < numShards := worker.pos
  obtain ⟨polled, reached, same, polling⟩ := returns_to_polling running alive
  by_cases newer : (polled.workers worker).consumerSeq < polled.ring.cursor
  · have drains : WorkerReaches worker polled fun later =>
        (later.workers worker).phase = .gating ∧ polled.ring.cursor < (later.workers worker).consumerSeq + numShards :=
      .after (.poll polling newer) rfl ⟨rfl, rfl, rfl⟩
        (drain_completes (polled.ring.cursor - (polled.workers worker).consumerSeq).toNat _ (by simp) (by simp))
    obtain ⟨later, onward, unchanged, _, beyond⟩ := drains
    refine ⟨later, reached.trans onward, same.trans unchanged, ?_⟩
    change later.ring.cursor < _
    rwa [unchanged.cursor]
  · exact ⟨polled, reached, same, by omega⟩

/-- Calls of `publish_event` do not overlap, and nobody stops the pipeline. -/
def SoloRunning (pipeline : Pipeline Task Event numShards) : PipelineLabel Task Event numShards → Prop
  | .check _ _ => ∀ task, pipeline.publishers task = .idle
  | .stop => False
  | _ => True

omit [DecidableEq Task] in
theorem SoloRunning.solo (running : pipeline.SoloRunning label) : pipeline.Solo label := by
  cases label with
  | check => exact running
  | _ => trivial

omit [DecidableEq Task] in
theorem soloRunning_of_byWorker (pipeline : Pipeline Task Event numShards)
    (own : label.ByWorker worker) : pipeline.SoloRunning label := by
  cases label with
  | poll | checkShutdown | drain | gate => trivial
  | _ => cases own

instance [Fintype Task] [DecidableEq Event] (pipeline : Pipeline Task Event numShards)
    (label : PipelineLabel Task Event numShards) : Decidable (pipeline.SoloRunning label) :=
  match label with
  | .check _ _ => inferInstanceAs (Decidable (∀ task, pipeline.publishers task = .idle))
  | .stop => .isFalse id
  | .claim _ | .write _ | .publish _ | .poll _ | .checkShutdown _ | .drain _ | .gate _ =>
    .isTrue trivial

theorem alive_of_reaches {capacity : Nat} {blank : Nat → Event} {start state : Pipeline Task Event numShards}
    (built : build Task numShards capacity blank = .ok start) (reached : system.Reaches SoloRunning start state) :
    state.shutdown = false ∧ ∀ worker, (state.workers worker).phase ≠ .exited := by
  obtain ⟨_, rfl⟩ := build_eq built
  refine reached.invariant (fun pipeline => pipeline.shutdown = false ∧
    ∀ worker, (pipeline.workers worker).phase ≠ .exited) ⟨rfl, fun worker => by simp [started]⟩ ?_
  intro before label after running stepped invariant
  obtain ⟨clear, alive⟩ := invariant
  cases step_moves stepped with
  | stop => cases running
  | poll | pollIdle | checkShutdown | handle | drained | gate =>
    refine ⟨clear, fun candidate => ?_⟩
    simp only [setWorker_workers, setRing_workers, recordHandled_workers]
    split <;> simp_all
  | _ => exact ⟨clear, alive⟩

/-- With one worker, as long as calls of `publish_event` do not overlap: the cursor
never goes back; a published event is never handled twice or with another content,
and is handled once when the worker has caught up; and the worker's own steps always
take it there. -/
theorem published_handledExactlyOnce {capacity : Nat} {blank : Nat → Event} {start state : Pipeline Task Event 1}
    (built : build Task 1 capacity blank = .ok start) (reached : system.Reaches SoloRunning start state) :
    (∀ label next, state.SoloRunning label → system.step state label = some next → state.ring.cursor ≤ next.ring.cursor) ∧
      (∀ source ∈ state.published, state.timesHandled source.sequence ≤ 1 ∧
        (∀ entry ∈ state.handled, entry.sequence = source.sequence → entry.event = source.event) ∧
        (state.Drained → state.timesHandled source.sequence = 1)) ∧
      ∃ later, system.Reaches (fun _ label => label.ByWorker 0) state later ∧ later.published = state.published ∧ later.Drained ∧
        ∀ source ∈ state.published, later.timesHandled source.sequence = 1 ∧
          ∃ entry ∈ later.handled, entry.sequence = source.sequence ∧ entry.event = source.event := by
  have handledOnce : ∀ current : Pipeline Task Event 1, system.Reaches SoloRunning start current →
      current.Drained → ∀ source ∈ current.published, current.timesHandled source.sequence = 1 := by
    intro current currentReached drained source member
    have solo := soloInvariant_of_reaches built (currentReached.mono fun _ _ running => running.solo)
    obtain ⟨nonneg, within⟩ := solo.published_bounds member
    exact (onStride_of_reachable built currentReached.reachable).oneShard drained nonneg within
  have solo := soloInvariant_of_reaches built (reached.mono fun _ _ running => running.solo)
  refine ⟨fun label next _ stepped => solo.cursor_le stepped, ?_, ?_⟩
  · intro source member
    exact ⟨(onStride_of_reachable built reached.reachable).timesHandled_le_one _,
      fun entry handled same => solo.handled_content member handled same,
      fun drained => handledOnce state reached drained source member⟩
  · obtain ⟨clear, alive⟩ := alive_of_reaches built reached
    obtain ⟨later, onward, same, caughtUp⟩ := worker_drains clear (alive 0)
    have laterReached : system.Reaches SoloRunning start later :=
      reached.trans (onward.mono fun pipeline _ own => soloRunning_of_byWorker pipeline own)
    have drained : later.Drained := by
      intro worker
      rw [Subsingleton.elim worker 0]
      exact caughtUp
    refine ⟨later, onward, same.published, drained, fun source member => ?_⟩
    have laterMember : source ∈ later.published := same.published.symm ▸ member
    have once := handledOnce later laterReached drained source laterMember
    obtain ⟨entry, handled, sameSequence⟩ :=
      List.countP_pos_iff.mp (show 0 < later.timesHandled source.sequence by omega)
    have laterSolo := soloInvariant_of_reaches built (laterReached.mono fun _ _ running => running.solo)
    have sameSequence := of_decide_eq_true sameSequence
    exact ⟨once, entry, handled, sameSequence, laterSolo.handled_content laterMember handled sameSequence⟩

theorem oneShard_published_handledExactlyOnce : ∃ state, system.Reaches SoloRunning oneShard state ∧
      state.published = [⟨(), 0, 10⟩] ∧
      (∀ label next, state.SoloRunning label → system.step state label = some next → state.ring.cursor ≤ next.ring.cursor) ∧
      (∀ source ∈ state.published, state.timesHandled source.sequence ≤ 1 ∧
        (∀ entry ∈ state.handled, entry.sequence = source.sequence → entry.event = source.event) ∧
        (state.Drained → state.timesHandled source.sequence = 1)) ∧
      ∃ later, system.Reaches (fun _ label => label.ByWorker 0) state later ∧ later.published = state.published ∧ later.Drained ∧
        ∀ source ∈ state.published, later.timesHandled source.sequence = 1 ∧
          ∃ entry ∈ later.handled, entry.sequence = source.sequence ∧ entry.event = source.event := by
  obtain ⟨state, reached, published⟩ := exists_reaches_of_run system SoloRunning oneShard
    (publishing () 10) (fun state => state.published = [⟨(), 0, 10⟩]) (by decide) (by decide)
  exact ⟨state, reached, published, published_handledExactlyOnce oneShard_built reached⟩

def twoTasks : Pipeline Bool Nat 1 :=
  started Bool (RingBuffer.fresh 1 isPowerOfTwo_four fun _ => 0)

/-- The second task publishes first, so the worker handles the first task's sequence
before its slot is written; then the first task puts the cursor back and is told that
its event was published. -/
theorem twoTasks_event_lost : ∃ state, system.Reachable twoTasks state ∧ state.ring.cursor = 1 ∧
      (system.step state (.publish false)).any (fun next => next.ring.cursor = 0 ∧ ⟨false, 0, 10⟩ ∈ next.published ∧
        next.handled = [⟨0, 0, 0, false⟩, ⟨0, 1, 11, true⟩]) = true :=
  exists_reachable_of_run system twoTasks
    ([.check false 10, .check true 11, .claim false, .claim true, .write true, .publish true] ++ working 0 2 ++ [.write false])
    (fun state => state.ring.cursor = 1 ∧ (system.step state (.publish false)).any (fun next => next.ring.cursor = 0 ∧
        ⟨false, 0, 10⟩ ∈ next.published ∧
        next.handled = [⟨0, 0, 0, false⟩, ⟨0, 1, 11, true⟩]) = true)
    (by decide)

end Pipeline

end Blazil.Engine
