import Blazil.Engine.WorkerExit

/-! Whether a single producer can publish once the workers have caught up. The slowest gate
stays up to one stride behind the cursor, and a buffer no larger than the stride is then
full although nothing is left to consume. -/

set_option autoImplicit false

namespace Blazil.Engine.Pipeline

open Foundation Foundation.System

variable {Task Event : Type} {numShards : Nat}

/-- Every worker has consumed its sequences up to the cursor and has stored its gate,
unless the cursor has not come to its first stride. -/
structure CaughtUp (pipeline : Pipeline Task Event numShards) : Prop where
  drained : pipeline.Drained
  gated : ∀ worker : Fin numShards, pipeline.ring.cursor < worker.val ∨
    pipeline.ring.gatingSequences worker = (pipeline.workers worker).consumerSeq

/-- A worker stores no gate before the cursor has come to its first stride. -/
structure GateInvariant (pipeline : Pipeline Task Event numShards) : Prop where
  lower : ∀ worker, -1 ≤ pipeline.ring.gatingSequences worker
  unreached : ∀ worker : Fin numShards, pipeline.ring.cursor < worker.val → pipeline.ring.gatingSequences worker = -1 ∧
      (∀ seen, (pipeline.workers worker).phase ≠ .draining seen) ∧
      (pipeline.workers worker).phase ≠ .gating

variable {pipeline : Pipeline Task Event numShards} {capacity : Nat} {blank : Nat → Event}

theorem OnStride.consumer_ge (onStride : pipeline.OnStride) (worker : Fin numShards) :
    (worker.val : Int) - 1 ≤ (pipeline.workers worker).consumerSeq := by
  obtain ⟨count, _⟩ := onStride worker
  have scaled : (0 : Int) ≤ numShards * (count : Int) := by positivity
  omega

theorem gateInvariant_started {power : isPowerOfTwo capacity = true} :
    (started Task (RingBuffer.fresh numShards power blank)).GateInvariant where
  lower _ := le_refl _
  unreached _ _ := ⟨rfl, nofun, nofun⟩

variable [DecidableEq Task] {next start state : Pipeline Task Event numShards} {label : PipelineLabel Task Event numShards}

theorem capacity_step (stepped : pipeline.step label = some next) : next.ring.capacity = pipeline.ring.capacity := by
  cases step_moves stepped <;> rfl

theorem capacity_of_reachable (built : build Task numShards capacity blank = .ok start)
    (reached : system.Reachable start state) : state.ring.capacity = capacity := by
  obtain ⟨_, rfl⟩ := build_eq built
  exact reached.invariant (fun state => state.ring.capacity = capacity) rfl
    fun _ _ _ _ stepped same => (capacity_step stepped).trans same

theorem GateInvariant.step (gates : pipeline.GateInvariant) (solo : pipeline.SoloInvariant)
    (onStride : pipeline.OnStride) (stepped : pipeline.step label = some next) : next.GateInvariant := by
  have advanced := solo.cursor_le stepped
  cases step_moves stepped with
  | full | check | claim | write | stop => exact ⟨gates.lower, gates.unreached⟩
  | publish =>
    refine ⟨gates.lower, fun worker below => gates.unreached worker ?_⟩
    exact lt_of_le_of_lt advanced below
  | @poll actor _ _ =>
    refine ⟨gates.lower, fun worker below => ?_⟩
    by_cases same : worker = actor
    · subst same
      have start := onStride.consumer_ge worker
      omega
    · simpa [same] using gates.unreached worker below
  | @pollIdle actor | @checkShutdown actor =>
    refine ⟨gates.lower, fun worker below => ?_⟩
    obtain ⟨stored, notDraining, notGating⟩ := gates.unreached worker below
    refine ⟨stored, ?_⟩
    by_cases same : worker = actor
    · simp only [setWorker_workers, same, ↓reduceIte]
      grind
    · simpa [same] using ⟨notDraining, notGating⟩
  | @handle actor _ _ draining | @drained actor _ draining =>
    refine ⟨gates.lower, fun worker below => ?_⟩
    by_cases same : worker = actor
    · subst same
      exact absurd draining ((gates.unreached worker below).2.1 _)
    · simpa [same] using gates.unreached worker below
  | @gate actor gating =>
    refine ⟨fun worker => ?_, fun worker below => ?_⟩
    · by_cases same : worker = actor
      · subst same
        simpa [RingBuffer.setGate] using solo.started worker
      · simpa [RingBuffer.setGate, same] using gates.lower worker
    · by_cases same : worker = actor
      · subst same
        exact absurd gating (gates.unreached worker below).2.2
      · simpa [RingBuffer.setGate, same] using gates.unreached worker below

theorem gateInvariant_of_reaches (built : build Task numShards capacity blank = .ok start)
    (reached : system.Reaches Solo start state) : state.GateInvariant := by
  have together : state.GateInvariant ∧ state.SoloInvariant ∧ state.OnStride := by
    obtain ⟨_, rfl⟩ := build_eq built
    refine reached.invariant (fun state => state.GateInvariant ∧ state.SoloInvariant ∧ state.OnStride)
      ⟨gateInvariant_started, soloInvariant_started, onStride_started⟩ ?_
    intro before label after permitted stepped invariant
    obtain ⟨gates, solo, onStride⟩ := invariant
    exact ⟨gates.step solo onStride stepped, solo.step permitted stepped, onStride.step stepped⟩
  exact together.1

theorem run_publishing_iff {task : Task} {event : Event} (idle : pipeline.publishers task = .idle) :
    (∃ later, system.run pipeline (publishing task event) = some later ∧
      ⟨task, pipeline.ring.claim + 1, event⟩ ∈ later.published) ↔ pipeline.ring.hasAvailableCapacity = true := by
  by_cases room : pipeline.ring.hasAvailableCapacity = true
  · simp [publishing, run_cons, system, step, idle, room]
  · simp [publishing, run_cons, system, step, idle, room]

omit [DecidableEq Task] in
/-- Among the workers that the cursor has passed, the one that is next to act stands a whole
stride behind the next sequence. -/
theorem CaughtUp.exists_slowest (caughtUp : pipeline.CaughtUp) (solo : pipeline.SoloInvariant)
    (onStride : pipeline.OnStride) (positive : 0 < numShards) (passed : (numShards : Int) ≤ pipeline.ring.cursor + 1) :
    ∃ worker, pipeline.ring.gatingSequences worker = pipeline.ring.cursor + 1 - numShards := by
  have nonneg : 0 ≤ (pipeline.ring.cursor + 2) % (numShards : Int) :=
    Int.emod_nonneg _ (by omega)
  have below : (pipeline.ring.cursor + 2) % (numShards : Int) < numShards :=
    Int.emod_lt_of_pos _ (by omega)
  have division := Int.emod_add_mul_ediv (pipeline.ring.cursor + 2) (numShards : Int)
  obtain ⟨residue, _⟩ := Int.eq_ofNat_of_zero_le nonneg
  generalize (pipeline.ring.cursor + 2) / (numShards : Int) = quotient at division
  let worker : Fin numShards := ⟨residue, by omega⟩
  refine ⟨worker, ?_⟩
  obtain ⟨count, position, _⟩ := onStride worker
  have limit := caughtUp.drained worker
  have stored : pipeline.ring.gatingSequences worker = (pipeline.workers worker).consumerSeq :=
    (caughtUp.gated worker).resolve_left (by simp only [worker]; omega)
  have reached : (pipeline.workers worker).consumerSeq ≤ pipeline.ring.cursor := by
    rcases solo.consumer_le onStride worker with below | _
    · exact below
    · omega
  have position : (pipeline.workers worker).consumerSeq = (residue : Int) - 1 + numShards * (count : Int) := position
  have gap : (numShards : Int) * (quotient - count) = pipeline.ring.cursor - (pipeline.workers worker).consumerSeq + 1 := by
    rw [mul_sub]
    omega
  have one : quotient - count = 1 := by
    have above : 0 < quotient - (count : Int) := by
      by_contra nonpos
      have scaled : (numShards : Int) * (quotient - count) ≤ numShards * 0 :=
        mul_le_mul_of_nonneg_left (by omega) (by omega)
      omega
    have most : quotient - (count : Int) < 2 := by
      by_contra large
      have scaled : (numShards : Int) * 2 ≤ numShards * (quotient - count) :=
        mul_le_mul_of_nonneg_left (by omega) (by omega)
      omega
    omega
  rw [one] at gap
  omega

/-- In a state in which the workers have caught up, the next call of `publish_event` by the
single producer succeeds if and only if the buffer is larger than the number of workers,
or is not yet nearly full since the start. -/
theorem publish_succeeds_iff {capacity : Nat} {blank : Nat → Event} {start state : Pipeline Task Event numShards}
    (built : build Task numShards capacity blank = .ok start) (reached : system.Reaches Solo start state)
    (idle : ∀ task, state.publishers task = .idle) (caughtUp : state.CaughtUp) (task : Task) (event : Event) :
    (∃ later, system.run state (publishing task event) = some later ∧ ⟨task, state.ring.cursor + 1, event⟩ ∈ later.published) ↔
      numShards < capacity ∨ state.ring.cursor + 2 < capacity := by
  have solo := soloInvariant_of_reaches built reached
  have onStride := onStride_of_reachable built reached.reachable
  have gates := gateInvariant_of_reaches built reached
  have size := capacity_of_reachable built reached.reachable
  rw [← solo.quiet idle, run_publishing_iff (idle task), RingBuffer.hasAvailableCapacity_iff, solo.quiet idle, size]
  by_cases passed : (numShards : Int) ≤ state.ring.cursor + 1
  · constructor
    · intro room
      by_cases positive : 0 < numShards
      · obtain ⟨slowest, _⟩ := caughtUp.exists_slowest solo onStride positive passed
        have atSlowest := room slowest
        omega
      · have := isPowerOfTwo_pos state.ring.powerOfTwo
        omega
    · intro fits worker
      have limit := caughtUp.drained worker
      have stored := (caughtUp.gated worker).resolve_left (by omega)
      omega
  · have lastBound : numShards - 1 < numShards := by
      have := solo.bounded
      omega
    constructor
    · intro room
      have stored := (gates.unreached ⟨numShards - 1, lastBound⟩ (by simp only; omega)).1
      have atLast := room ⟨numShards - 1, lastBound⟩
      omega
    · intro fits worker
      have lower := gates.lower worker
      omega

theorem oneShard_publish_succeeds : ∃ state, system.Reaches Solo oneShard state ∧ state.ring.cursor = 2 ∧
      ((∃ later, system.run state (publishing () 13) = some later ∧ ⟨(), state.ring.cursor + 1, 13⟩ ∈ later.published) ↔
        1 < 4 ∨ state.ring.cursor + 2 < (4 : Nat)) := by
  obtain ⟨state, reached, cursor, idle, drained, gated⟩ :=
    exists_reachable_of_run system oneShard (publishing () 10 ++ publishing () 11 ++ publishing () 12 ++ working 0 3)
      (fun state => state.ring.cursor = 2 ∧ (∀ task, state.publishers task = .idle) ∧
        state.Drained ∧ ∀ worker, state.ring.gatingSequences worker = (state.workers worker).consumerSeq) (by decide +kernel)
  have reached := reaches_solo_of_reachable reached
  refine ⟨state, reached, cursor, publish_succeeds_iff oneShard_built reached idle ?_ () 13⟩
  exact ⟨drained, fun worker => .inr (gated worker)⟩

def twoSlots : Pipeline Unit Nat 2 :=
  started Unit (RingBuffer.fresh 2 isPowerOfTwo_two fun _ => 0)

/-- Two workers share two slots. After one event both have caught up, and the second event
is refused. -/
theorem twoSlots_publish_refused : build Unit 2 2 (fun _ => 0) = .ok twoSlots ∧
      ∃ state, system.Reaches Solo twoSlots state ∧ (∀ task, state.publishers task = .idle) ∧
        state.CaughtUp ∧ state.ring.cursor = 0 ∧ system.step state (.check () 11) = some state ∧
        system.run state (publishing () 11) = none := by
  refine ⟨rfl, ?_⟩
  obtain ⟨state, reached, idle, drained, gates, cursor, full⟩ :=
    exists_reachable_of_run system twoSlots (publishing () 10 ++ working 0 0)
      (fun state => (∀ task, state.publishers task = .idle) ∧ state.Drained ∧ (∀ worker : Fin 2, state.ring.cursor < worker.val ∨
          state.ring.gatingSequences worker = (state.workers worker).consumerSeq) ∧
        state.ring.cursor = 0 ∧ state.ring.hasAvailableCapacity = false)
      (by decide)
  refine ⟨state, reaches_solo_of_reachable reached, idle, ⟨drained, gates⟩, cursor, ?_, ?_⟩
  · simp [system, step, idle, full]
  · simp [publishing, run_cons, system, step, idle, full]

end Blazil.Engine.Pipeline
