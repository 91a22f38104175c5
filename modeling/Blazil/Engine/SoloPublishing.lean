import Blazil.Engine.Pipeline
import Blazil.Foundation.Entries

/-! Runs in which calls of `publish_event` never overlap. The documentation of the
pipeline asks for a single producer; in such runs the claim counter and the cursor
move together, no slot is overwritten before it is consumed, and what a worker reads
is what was published. -/

set_option autoImplicit false

namespace Blazil.Engine

open Foundation Foundation.System

/-- What a call in progress implies for the counters and for its slot. -/
def Publisher.Consistent {Event : Type} {numShards : Nat} (ring : RingBuffer Event numShards) : Publisher Event → Prop
  | .idle => True
  | .checked _ => ring.claim = ring.cursor ∧ ∀ worker, ring.claim + 1 < ring.gatingSequences worker + ring.capacity
  | .claimed _ sequence => sequence = ring.claim ∧ ring.claim = ring.cursor + 1
  | .written event sequence => sequence = ring.claim ∧ ring.claim = ring.cursor + 1 ∧
      ring.get sequence = event

namespace Pipeline

variable {Task Event : Type} {numShards : Nat}

/-- A call of `publish_event` starts only while no other call is in progress. -/
def Solo (pipeline : Pipeline Task Event numShards) : PipelineLabel Task Event numShards → Prop
  | .check _ _ => ∀ task, pipeline.publishers task = .idle
  | _ => True

structure SoloInvariant (pipeline : Pipeline Task Event numShards) : Prop where
  single : ∀ first second, pipeline.publishers first ≠ .idle → pipeline.publishers second ≠ .idle → first = second
  consistent : ∀ task, (pipeline.publishers task).Consistent pipeline.ring
  quiet : (∀ task, pipeline.publishers task = .idle) → pipeline.ring.claim = pipeline.ring.cursor
  room : ∀ worker, pipeline.ring.claim < pipeline.ring.gatingSequences worker + pipeline.ring.capacity
  bounded : -1 ≤ pipeline.ring.cursor
  numbered : pipeline.published.map (fun entry => entry.sequence) = stride (-1) 1 (pipeline.ring.cursor + 1).toNat
  kept : ∀ entry ∈ pipeline.published, pipeline.ring.claim < entry.sequence + pipeline.ring.capacity →
    pipeline.ring.get entry.sequence = entry.event
  gated : ∀ worker, pipeline.ring.gatingSequences worker ≤ (pipeline.workers worker).consumerSeq
  started : ∀ worker, -1 ≤ (pipeline.workers worker).consumerSeq
  reading : ∀ worker cursor, (pipeline.workers worker).phase = .draining cursor → cursor ≤ pipeline.ring.cursor
  faithful : ∀ entry ∈ pipeline.handled, ∃ source ∈ pipeline.published,
    source.sequence = entry.sequence ∧ source.event = entry.event

variable {pipeline : Pipeline Task Event numShards} {sequence : Int} {worker : Fin numShards} {entry : Handled Event numShards}
  {source : Published Task Event} {cursor : Int}

section

variable (solo : pipeline.SoloInvariant)
include solo

theorem SoloInvariant.published_bounds {entry} (member : entry ∈ pipeline.published) :
    0 ≤ entry.sequence ∧ entry.sequence ≤ pipeline.ring.cursor := by
  have listed : entry.sequence ∈ pipeline.published.map fun entry => entry.sequence :=
    List.mem_map.mpr ⟨entry, member, rfl⟩
  rw [solo.numbered, mem_stride] at listed
  omega

theorem SoloInvariant.exists_published (nonneg : 0 ≤ sequence) (within : sequence ≤ pipeline.ring.cursor) :
    ∃ entry ∈ pipeline.published, entry.sequence = sequence := by
  have listed : sequence ∈ stride (-1) 1 (pipeline.ring.cursor + 1).toNat :=
    mem_stride.mpr ⟨sequence.toNat, by omega, by omega⟩
  rw [← solo.numbered] at listed
  exact List.mem_map.mp listed

theorem SoloInvariant.published_unique {first second} (firstMember : first ∈ pipeline.published)
    (secondMember : second ∈ pipeline.published) (same : first.sequence = second.sequence) : first = second := by
  have distinct : (pipeline.published.map fun entry => entry.sequence).Nodup := by
    rw [solo.numbered]
    exact (stride_sorted (by decide) _).imp fun less => less.ne
  exact List.inj_on_of_nodup_map distinct firstMember secondMember same

theorem SoloInvariant.nextHandled_source (draining : (pipeline.workers worker).phase = .draining cursor)
    (taken : pipeline.nextHandled worker cursor = some entry) :
    ∃ source ∈ pipeline.published, source.sequence = entry.sequence ∧ source.event = entry.event := by
  obtain ⟨_, _, content, _⟩ := nextHandled_some taken
  have limit := solo.reading worker cursor draining
  have start := solo.started worker
  obtain ⟨source, member, same⟩ :=
    solo.exists_published (show 0 ≤ entry.sequence by omega) (show entry.sequence ≤ _ by omega)
  have room := solo.room worker
  have gated := solo.gated worker
  have intact := solo.kept source member (by omega)
  exact ⟨source, member, same, by rw [content, ← same, intact]⟩

theorem SoloInvariant.handled_content (published : source ∈ pipeline.published)
    (handled : entry ∈ pipeline.handled) (same : entry.sequence = source.sequence) : entry.event = source.event := by
  obtain ⟨_, originMember, originSame, content⟩ := solo.faithful entry handled
  rw [← content, solo.published_unique originMember published (originSame.trans same)]

end

theorem soloInvariant_started {capacity : Nat} {power : isPowerOfTwo capacity = true} {blank : Nat → Event} :
    (started Task (RingBuffer.fresh numShards power blank)).SoloInvariant where
  single first second busy := absurd rfl busy
  consistent task := trivial
  quiet _ := rfl
  room worker := by
    have := isPowerOfTwo_pos power
    simp only [started, RingBuffer.fresh]
    omega
  bounded := le_refl _
  numbered := rfl
  kept entry member := by cases member
  gated worker := by
    simp only [started, RingBuffer.fresh]
    omega
  started worker := by
    simp only [started]
    omega
  reading worker cursor phase := by cases phase
  faithful entry member := by cases member

theorem SoloInvariant.others_idle (solo : pipeline.SoloInvariant) {task : Task} (busy : pipeline.publishers task ≠ .idle)
    (other : Task) (different : other ≠ task) : pipeline.publishers other = .idle := by
  by_contra alsoBusy
  exact different (solo.single other task alsoBusy busy)

private theorem solo_setPhase (phase : WorkerPhase) (solo : pipeline.SoloInvariant)
    (reading : ∀ cursor, phase = .draining cursor → cursor ≤ pipeline.ring.cursor) :
    (pipeline.setWorker worker ⟨(pipeline.workers worker).consumerSeq, phase⟩).SoloInvariant := by
  have position : ∀ candidate, ((pipeline.setWorker worker
      ⟨(pipeline.workers worker).consumerSeq, phase⟩).workers candidate).consumerSeq =
        (pipeline.workers candidate).consumerSeq := by
    intro candidate
    rw [setWorker_workers]
    split
    · next same => rw [same]
    · rfl
  exact
    { solo with
      gated := fun candidate => by
        rw [position]
        exact solo.gated candidate
      started := fun candidate => by
        rw [position]
        exact solo.started candidate
      reading := by
        intro candidate cursor draining
        rw [setWorker_workers] at draining
        split at draining
        · exact reading cursor draining
        · exact solo.reading candidate cursor draining }

private theorem solo_handle (solo : pipeline.SoloInvariant)
    (draining : (pipeline.workers worker).phase = .draining cursor) (taken : pipeline.nextHandled worker cursor = some entry) :
    ((pipeline.recordHandled entry).setWorker worker ⟨entry.sequence, .draining cursor⟩).SoloInvariant := by
  obtain ⟨_, _⟩ := nextHandled_some taken
  exact
    { solo with
      gated := by
        intro candidate
        have before := solo.gated candidate
        by_cases same : candidate = worker
        · subst same
          simp only [setWorker_workers, ↓reduceIte, setWorker_ring, recordHandled_ring]
          omega
        · simpa [same] using before
      started := by
        intro candidate
        have before := solo.started candidate
        by_cases same : candidate = worker
        · subst same
          simp only [setWorker_workers, ↓reduceIte]
          omega
        · simpa [same] using before
      reading := by
        intro candidate seen candidateDraining
        by_cases same : candidate = worker
        · subst same
          simp only [setWorker_workers, ↓reduceIte, WorkerPhase.draining.injEq] at candidateDraining
          exact candidateDraining ▸ solo.reading candidate cursor draining
        · simp only [setWorker_workers, same, ↓reduceIte] at candidateDraining
          exact solo.reading candidate seen candidateDraining
      faithful := holds_after_concat solo.faithful (solo.nextHandled_source draining taken) }

private theorem consistent_setGate (worker : Fin numShards) (solo : pipeline.SoloInvariant) (task : Task) :
    (pipeline.publishers task).Consistent (pipeline.ring.setGate worker (pipeline.workers worker).consumerSeq) := by
  have stage := solo.consistent task
  cases publisher : pipeline.publishers task with rw [publisher] at stage
  | checked =>
    refine ⟨stage.1, fun candidate => ?_⟩
    have before := stage.2 candidate
    have gated := solo.gated candidate
    simp only [RingBuffer.setGate]
    split
    · next same =>
      subst same
      omega
    · exact before
  | idle | claimed | written =>
    exact stage

private theorem solo_setGate (worker : Fin numShards) (solo : pipeline.SoloInvariant) :
    (pipeline.setRing (pipeline.ring.setGate worker (pipeline.workers worker).consumerSeq)).SoloInvariant :=
  { solo with
    consistent := consistent_setGate worker solo
    room := by
      intro candidate
      have before := solo.room candidate
      have gated := solo.gated candidate
      simp only [setRing_ring, RingBuffer.setGate]
      split
      · next same =>
        subst same
        omega
      · exact before
    gated := by
      intro candidate
      simp only [setRing_ring, setRing_workers, RingBuffer.setGate]
      split
      · next same => exact same ▸ le_refl _
      · exact solo.gated candidate }

def Owns (worker : Fin numShards) (sequence : Int) : Prop :=
  ∃ index : Nat, sequence = (worker.val : Int) - 1 + numShards * ((index : Int) + 1)

theorem OnStride.handledBy_of_owns (onStride : pipeline.OnStride) (owned : Owns worker sequence)
    (passed : sequence < (pipeline.workers worker).consumerSeq) : sequence ∈ pipeline.handledBy worker := by
  obtain ⟨index, rfl⟩ := owned
  obtain ⟨count, _, history⟩ := onStride worker
  rw [history, mem_stride]
  refine ⟨index, ?_, rfl⟩
  by_contra beyond
  have scaled : (numShards : Int) * (count : Int) ≤ numShards * ((index : Int) + 1) :=
    mul_le_mul_of_nonneg_left (by omega) (by omega)
  omega

/-- Where the producer is about to write, every gate has passed the sequence that it
overwrites. -/
theorem SoloInvariant.overwritten_passed (solo : pipeline.SoloInvariant) {task : Task} {event : Event}
    (claimed : pipeline.publishers task = .claimed event sequence) (member : source ∈ pipeline.published)
    (sameSlot : source.sequence.toNat % pipeline.ring.capacity =
      sequence.toNat % pipeline.ring.capacity) (worker : Fin numShards) :
    source.sequence < pipeline.ring.gatingSequences worker := by
  have stage := solo.consistent task
  rw [claimed] at stage
  obtain ⟨rfl, _⟩ := stage
  obtain ⟨nonneg, _⟩ := solo.published_bounds member
  have room := solo.room worker
  rw [← maskedIndex_eq_mod pipeline.ring.powerOfTwo nonneg, ← maskedIndex_eq_mod pipeline.ring.powerOfTwo (by omega)] at sameSlot
  by_contra waiting
  have equal := maskedIndex_inj pipeline.ring.powerOfTwo (by omega) (by omega) sameSlot
  omega

section Steps

variable [DecidableEq Task] {pipeline next : Pipeline Task Event numShards} {task : Task} {event : Event}
  {label : PipelineLabel Task Event numShards}

private theorem single_setPublisher (publisher : Publisher Event)
    (othersIdle : ∀ other, other ≠ task → pipeline.publishers other = .idle) (first second : Task)
    (firstBusy : (pipeline.setPublisher task publisher).publishers first ≠ .idle)
    (secondBusy : (pipeline.setPublisher task publisher).publishers second ≠ .idle) : first = second := by
  have onlyTask : ∀ candidate, (pipeline.setPublisher task publisher).publishers candidate ≠ .idle → candidate = task := by
    intro candidate busy
    by_contra different
    apply busy
    simp [different, othersIdle candidate different]
  rw [onlyTask first firstBusy, onlyTask second secondBusy]

variable {publisher : Publisher Event}

private theorem consistent_setPublisher (ring : RingBuffer Event numShards)
    (othersIdle : ∀ other, other ≠ task → pipeline.publishers other = .idle) (consistent : publisher.Consistent ring)
    (candidate : Task) : ((pipeline.setPublisher task publisher).publishers candidate).Consistent ring := by
  by_cases same : candidate = task
  · simpa [same] using consistent
  · simp [same, othersIdle candidate same, Publisher.Consistent]

private theorem not_quiet (busy : publisher ≠ .idle)
    (idle : ∀ candidate, (pipeline.setPublisher task publisher).publishers candidate = .idle) : False := by
  apply busy
  simpa using idle task

section

variable (solo : pipeline.SoloInvariant)
include solo

private theorem solo_check (allIdle : ∀ other, pipeline.publishers other = .idle)
    (room : pipeline.ring.hasAvailableCapacity = true) : (pipeline.setPublisher task (.checked event)).SoloInvariant :=
  { solo with
    single := single_setPublisher _ fun other _ => allIdle other
    consistent := consistent_setPublisher _ (fun other _ => allIdle other)
      ⟨solo.quiet allIdle, RingBuffer.hasAvailableCapacity_iff.mp room⟩
    quiet := fun idle => (not_quiet (by simp) idle).elim }

private theorem solo_claim (checked : pipeline.publishers task = .checked event) :
    ((pipeline.setRing pipeline.ring.nextSequence).setPublisher task
      (.claimed event (pipeline.ring.claim + 1))).SoloInvariant := by
  have stage := solo.consistent task
  rw [checked] at stage
  obtain ⟨level, room⟩ := stage
  have busy : pipeline.publishers task ≠ .idle := by simp [checked]
  exact
    { solo with
      single := single_setPublisher _ (solo.others_idle busy)
      consistent := consistent_setPublisher _ (solo.others_idle busy) ⟨rfl, by simp [RingBuffer.nextSequence, level]⟩
      quiet := fun idle => (not_quiet (by simp) idle).elim
      room := room
      kept := by
        intro entry member lap
        refine solo.kept entry member ?_
        simp only [setPublisher_ring, setRing_ring, RingBuffer.nextSequence] at lap
        omega }

private theorem solo_write (claimed : pipeline.publishers task = .claimed event sequence) :
    ((pipeline.setRing (pipeline.ring.write sequence event)).setPublisher task (.written event sequence)).SoloInvariant := by
  have stage := solo.consistent task
  rw [claimed] at stage
  obtain ⟨rfl, ahead⟩ := stage
  have busy : pipeline.publishers task ≠ .idle := by simp [claimed]
  exact
    { solo with
      single := single_setPublisher _ (solo.others_idle busy)
      consistent := consistent_setPublisher _ (solo.others_idle busy) ⟨rfl, ahead, RingBuffer.get_write_same _ _ _⟩
      quiet := fun idle => (not_quiet (by simp) idle).elim
      kept := by
        intro entry member lap
        obtain ⟨_, _⟩ := solo.published_bounds member
        have lap : pipeline.ring.claim < entry.sequence + pipeline.ring.capacity := lap
        refine Eq.trans ?_ (solo.kept entry member lap)
        exact RingBuffer.get_write_other (by omega) (by omega) (by omega) }

private theorem solo_publish (written : pipeline.publishers task = .written event sequence) :
    (((pipeline.setRing (pipeline.ring.publish sequence)).recordPublished
      ⟨task, sequence, event⟩).setPublisher task .idle).SoloInvariant := by
  have stage := solo.consistent task
  rw [written] at stage
  obtain ⟨rfl, ahead, content⟩ := stage
  have busy : pipeline.publishers task ≠ .idle := by simp [written]
  have bounded := solo.bounded
  have newBound : -1 ≤ pipeline.ring.claim := by omega
  exact
    { solo with
      single := single_setPublisher _ (solo.others_idle busy)
      consistent := consistent_setPublisher _ (solo.others_idle busy) trivial
      quiet := fun _ => rfl
      bounded := newBound
      numbered := by
        change (pipeline.published ++ [_]).map _ = stride (-1) 1 (pipeline.ring.claim + 1).toNat
        have nonneg : 0 ≤ pipeline.ring.claim := by omega
        rw [List.map_append, solo.numbered, ← ahead, stride_upTo nonneg]
        rfl
      kept := holds_after_concat solo.kept fun _ => content
      reading := by
        intro worker cursor draining
        have before := solo.reading worker cursor draining
        change cursor ≤ pipeline.ring.claim
        omega
      faithful := by
        intro entry member
        obtain ⟨source, sourceMember, same⟩ := solo.faithful entry member
        exact ⟨source, List.mem_append_left _ sourceMember, same⟩ }

theorem SoloInvariant.step (permitted : pipeline.Solo label)
    (stepped : pipeline.step label = some next) : next.SoloInvariant := by
  cases step_moves stepped with
  | full => exact solo
  | check _ room => exact solo_check solo permitted room
  | claim checked => exact solo_claim solo checked
  | write claimed => exact solo_write solo claimed
  | publish written => exact solo_publish solo written
  | stop => exact { solo with }
  | poll =>
    exact solo_setPhase _ solo fun cursor same => by
      cases same
      exact le_refl _
  | pollIdle | drained => exact solo_setPhase _ solo fun cursor same => by cases same
  | checkShutdown =>
    refine solo_setPhase _ solo fun cursor same => ?_
    split at same <;> cases same
  | handle draining taken => exact solo_handle solo draining taken
  | @gate worker _ =>
    exact solo_setPhase _ (solo_setGate worker solo) fun cursor same => by cases same

end

variable {start state : Pipeline Task Event numShards}

theorem soloInvariant_of_reaches {capacity : Nat} {blank : Nat → Event} (built : build Task numShards capacity blank = .ok start)
    (reached : system.Reaches Solo start state) : state.SoloInvariant := by
  obtain ⟨_, rfl⟩ := build_eq built
  exact reached.invariant SoloInvariant soloInvariant_started fun _ _ _ permitted stepped solo => solo.step permitted stepped

theorem SoloInvariant.cursor_of_step (solo : pipeline.SoloInvariant) (stepped : pipeline.step label = some next) :
    next.ring.cursor = pipeline.ring.cursor ∨ (∃ task, label = .publish task) ∧ next.ring.cursor = pipeline.ring.cursor + 1 := by
  cases step_moves stepped with
  | @publish task _ _ written =>
    have stage := solo.consistent task
    rw [written] at stage
    obtain ⟨same, ahead, _⟩ := stage
    exact .inr ⟨⟨task, rfl⟩, same.trans ahead⟩
  | _ => exact .inl rfl

theorem SoloInvariant.cursor_le (solo : pipeline.SoloInvariant)
    (stepped : pipeline.step label = some next) : pipeline.ring.cursor ≤ next.ring.cursor := by
  rcases solo.cursor_of_step stepped with same | ⟨_, _⟩
  · exact Int.le_of_eq same.symm
  · omega

theorem reaches_solo_of_reachable [Subsingleton Task] (reached : system.Reachable start state) :
    system.Reaches Solo start state := by
  induction reached with
  | refl => exact .refl
  | @step _ _ _ _ _ stepped ih =>
    refine .step ih ?_ stepped
    cases step_moves stepped with
    | @full task _ idle | @check task _ idle =>
      intro other
      rw [Subsingleton.elim other task, idle]
    | _ => trivial

/-- With a single producer, a worker that takes up a sequence finds in its slot the event
that was published as this sequence; and when the producer overwrites a published
sequence, the worker that owns it has handled it and moved its gate past it. -/
theorem soloRun_slot_kept_until_handled {capacity : Nat} {blank : Nat → Event} {start state : Pipeline Task Event numShards}
    (built : build Task numShards capacity blank = .ok start) (reached : system.Reaches Solo start state) :
    (∀ worker cursor entry, (state.workers worker).phase = .draining cursor → state.nextHandled worker cursor = some entry →
      ∃ source ∈ state.published, source.sequence = entry.sequence ∧
        (∀ other ∈ state.published, other.sequence = entry.sequence → other = source) ∧
        state.ring.slots (entry.sequence.toNat % state.ring.capacity) = source.event ∧ entry.event = source.event) ∧
    ∀ task event sequence, state.publishers task = .claimed event sequence → ∀ source ∈ state.published,
        source.sequence.toNat % state.ring.capacity = sequence.toNat % state.ring.capacity →
        ∀ worker, Owns worker source.sequence → source.sequence ∈ state.handledBy worker ∧
            source.sequence < state.ring.gatingSequences worker := by
  have solo := soloInvariant_of_reaches built reached
  have onStride := onStride_of_reachable built reached.reachable
  constructor
  · intro worker cursor entry draining taken
    obtain ⟨source, member, same, content⟩ := solo.nextHandled_source draining taken
    obtain ⟨_, _, slot, _⟩ := nextHandled_some taken
    refine ⟨source, member, same, ?_, ?_, content.symm⟩
    · intro other otherMember otherSame
      exact solo.published_unique otherMember member (otherSame.trans same.symm)
    · have nonneg := (solo.published_bounds member).1
      rw [content, slot, RingBuffer.get, maskedIndex_eq_mod state.ring.powerOfTwo (same ▸ nonneg)]
  · intro task event sequence claimed source member sameSlot worker owned
    have passed := solo.overwritten_passed claimed member sameSlot worker
    have gated := solo.gated worker
    exact ⟨onStride.handledBy_of_owns owned (by omega), passed⟩

/-- Two workers and four slots: the producer is about to overwrite the second event, and a
worker is about to take up the fifth one. -/
theorem reusedSlot_kept_until_handled : ∃ state, system.Reaches Solo twoShards state ∧
      state.publishers () = .claimed 15 5 ∧ (state.workers 1).phase = .draining 4 ∧
      state.nextHandled 1 4 = some ⟨1, 4, 14, true⟩ ∧
      (∃ source ∈ state.published, source.sequence = 4 ∧ (∀ other ∈ state.published, other.sequence = 4 → other = source) ∧
        state.ring.slots ((4 : Int).toNat % state.ring.capacity) = source.event ∧ 14 = source.event) ∧
      ∀ source ∈ state.published, source.sequence.toNat % state.ring.capacity = (5 : Int).toNat % state.ring.capacity →
        ∀ worker, Owns worker source.sequence → source.sequence ∈ state.handledBy worker ∧
            source.sequence < state.ring.gatingSequences worker := by
  obtain ⟨state, reached, claimed, draining, taken⟩ := exists_reachable_of_run system twoShards
    (publishing () 10 ++ publishing () 11 ++ publishing () 12 ++ working 0 1 ++ working 1 1 ++
      publishing () 13 ++ working 0 1 ++ publishing () 14 ++
      [.poll 1, .check () 15, .claim ()])
    (fun state => state.publishers () = .claimed 15 5 ∧
      (state.workers 1).phase = .draining 4 ∧ state.nextHandled 1 4 = some ⟨1, 4, 14, true⟩)
    (by decide +kernel)
  have built : build Unit 2 4 (fun _ => 0) = .ok twoShards := rfl
  have solo := reaches_solo_of_reachable reached
  obtain ⟨takenUp, overwritten⟩ := soloRun_slot_kept_until_handled built solo
  exact ⟨state, solo, claimed, draining, taken, takenUp 1 4 _ draining taken, overwritten () 15 5 claimed⟩

end Steps

end Pipeline

end Blazil.Engine
