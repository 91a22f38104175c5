import Blazil.Engine.WorkerProgress

/-! When the loop of a worker ends after a stop. It tests the flag only while it is not
behind the cursor, and a stride that passes over the cursor leaves it behind for good. -/

set_option autoImplicit false

namespace Blazil.Engine

open Foundation Foundation.System

variable {Task Event : Type} {numShards : Nat}

def PipelineLabel.Elsewhere (worker : Fin numShards) : PipelineLabel Task Event numShards → Prop
  | .publish _ => False
  | .poll actor | .checkShutdown actor | .drain actor | .gate actor => actor ≠ worker
  | _ => True

inductive WorkerMoves (numShards : Nat) (cursor : Int) (shutdown : Bool) (worker : Worker) : Worker → Prop where
  | newer (polling : worker.phase = .polling) (behind : worker.consumerSeq < cursor) :
      WorkerMoves numShards cursor shutdown worker ⟨worker.consumerSeq, .draining cursor⟩
  | idle (polling : worker.phase = .polling) (caughtUp : cursor ≤ worker.consumerSeq) :
      WorkerMoves numShards cursor shutdown worker ⟨worker.consumerSeq, .checkingShutdown⟩
  | tested (checking : worker.phase = .checkingShutdown) : WorkerMoves numShards cursor shutdown worker
        ⟨worker.consumerSeq, if shutdown then .exited else .polling⟩
  | handled {seen} (draining : worker.phase = .draining seen) (within : worker.consumerSeq + numShards ≤ seen) :
      WorkerMoves numShards cursor shutdown worker ⟨worker.consumerSeq + numShards, .draining seen⟩
  | drained {seen} (draining : worker.phase = .draining seen) (beyond : seen < worker.consumerSeq + numShards) :
      WorkerMoves numShards cursor shutdown worker ⟨worker.consumerSeq, .gating⟩
  | gated (gating : worker.phase = .gating) : WorkerMoves numShards cursor shutdown worker ⟨worker.consumerSeq, .polling⟩

namespace Worker

variable {cursor : Int} {worker next : Worker}

/-- The cursor lies on the worker's stride or does not lie ahead. -/
def Aligned (numShards : Nat) (cursor : Int) (worker : Worker) : Prop :=
  cursor ≤ worker.consumerSeq ∨ (numShards : Int) ∣ cursor - worker.consumerSeq

/-- The loop will never stand at the cursor. -/
structure Astray (numShards : Nat) (cursor : Int) (worker : Worker) : Prop where
  behind : worker.consumerSeq < cursor
  apart : ¬(numShards : Int) ∣ cursor - worker.consumerSeq
  looping : worker.phase ≠ .checkingShutdown ∧ worker.phase ≠ .exited
  seen : ∀ seen, worker.phase = .draining seen → seen ≤ cursor

/-- The worker looks at the flag or has left. -/
def Leaving (worker : Worker) : Prop := worker.phase = .checkingShutdown ∨ worker.phase = .exited

/-- A worker that looks at the flag or has left is not behind the cursor. -/
def Current (cursor : Int) (worker : Worker) : Prop := worker.Leaving → cursor ≤ worker.consumerSeq

def pollsLeft (cursor consumerSeq : Int) : Nat :=
  if consumerSeq < cursor then (cursor - consumerSeq).toNat + 5 else 2

def stepsLeft (cursor : Int) (worker : Worker) : Nat :=
  match worker.phase with
  | .exited => 0
  | .checkingShutdown => 1
  | .polling => pollsLeft cursor worker.consumerSeq
  | .gating => pollsLeft cursor worker.consumerSeq + 1
  | .draining seen =>
    if seen = cursor then (cursor - worker.consumerSeq).toNat + 4
    else (seen - worker.consumerSeq).toNat + pollsLeft cursor worker.consumerSeq + 2

variable {consumerSeq : Int} {shutdown : Bool}

theorem pollsLeft_of_le (caughtUp : cursor ≤ consumerSeq) : pollsLeft cursor consumerSeq = 2 := if_neg (by omega)

theorem pollsLeft_antitone {first second : Int} (ordered : first ≤ second) :
    pollsLeft cursor second ≤ pollsLeft cursor first := by
  unfold pollsLeft
  split <;> split <;> omega

theorem Aligned.caughtUp (aligned : Aligned numShards cursor worker)
    (beyond : cursor < worker.consumerSeq + numShards) : cursor ≤ worker.consumerSeq := by
  rcases aligned with caughtUp | ⟨count, _⟩
  · exact caughtUp
  · by_contra behind
    have positive : 0 < count := by
      by_contra nonpos
      have scaled : (numShards : Int) * count ≤ numShards * 0 :=
        mul_le_mul_of_nonneg_left (by omega) (by omega)
      omega
    have scaled : (numShards : Int) * 1 ≤ numShards * count :=
      mul_le_mul_of_nonneg_left (by omega) (by omega)
    omega

theorem Aligned.moves (aligned : Aligned numShards cursor worker)
    (moved : WorkerMoves numShards cursor shutdown worker next) : Aligned numShards cursor next := by
  cases moved with
  | handled =>
    rcases aligned with _ | ⟨count, _⟩
    · exact .inl (show cursor ≤ worker.consumerSeq + numShards by omega)
    · refine .inr ⟨count - 1, ?_⟩
      change cursor - (worker.consumerSeq + numShards) = _
      rw [mul_sub, mul_one]
      omega
  | newer | idle | tested | drained | gated => exact aligned

theorem stepsLeft_lt (positive : 0 < numShards) (aligned : Aligned numShards cursor worker)
    (moved : WorkerMoves numShards cursor true worker next) : stepsLeft cursor next < stepsLeft cursor worker := by
  cases moved with
  | newer polling behind =>
    simp only [stepsLeft, polling, ↓reduceIte, pollsLeft, behind]
    omega
  | idle polling caughtUp =>
    simp only [stepsLeft, polling, pollsLeft_of_le caughtUp]
    omega
  | tested checking =>
    simp only [stepsLeft, checking, ↓reduceIte]
    omega
  | @handled _ draining _ =>
    have fewer : pollsLeft cursor (worker.consumerSeq + numShards) ≤
        pollsLeft cursor worker.consumerSeq := pollsLeft_antitone (by omega)
    simp only [stepsLeft, draining]
    split <;> omega
  | @drained _ draining beyond =>
    simp only [stepsLeft, draining]
    split
    · next same =>
      subst same
      rw [pollsLeft_of_le (aligned.caughtUp beyond)]
      omega
    · omega
  | gated gating =>
    simp only [stepsLeft, gating]
    omega

theorem Current.moves (current : Current cursor worker)
    (moved : WorkerMoves numShards cursor shutdown worker next) : Current cursor next := by
  intro leaving
  cases moved with
  | idle _ caughtUp => exact caughtUp
  | tested checking => exact current (.inl checking)
  | newer | handled | drained | gated => simp [Leaving] at leaving

theorem Leaving.moves (leaving : worker.Leaving) (down : shutdown = true)
    (moved : WorkerMoves numShards cursor shutdown worker next) :
    next.phase = .exited ∧ next.consumerSeq = worker.consumerSeq ∧ stepsLeft cursor next < stepsLeft cursor worker := by
  cases moved with
  | tested checking => simp [stepsLeft, checking, down]
  | newer phase | idle phase | handled phase | drained phase | gated phase => simp [Leaving, phase] at leaving

theorem Astray.moves (astray : Astray numShards cursor worker)
    (moved : WorkerMoves numShards cursor shutdown worker next) : Astray numShards cursor next := by
  cases moved with
  | newer _ behind =>
    refine ⟨behind, astray.apart, ⟨nofun, nofun⟩, ?_⟩
    intro seen same
    cases same
    exact le_refl _
  | idle _ caughtUp => exact absurd astray.behind (not_lt.mpr caughtUp)
  | tested checking => exact absurd checking astray.looping.1
  | @handled seen draining _ =>
    have limit := astray.seen seen draining
    have apart : ¬(numShards : Int) ∣ cursor - (worker.consumerSeq + numShards) := by
      rintro ⟨count, _⟩
      refine astray.apart ⟨count + 1, ?_⟩
      rw [mul_add, mul_one]
      omega
    refine ⟨?_, apart, ⟨nofun, nofun⟩, ?_⟩
    · by_contra reached
      refine apart ⟨0, ?_⟩
      change ¬worker.consumerSeq + numShards < cursor at reached
      omega
    · intro other same
      cases same
      exact limit
  | drained | gated => exact ⟨astray.behind, astray.apart, ⟨nofun, nofun⟩, nofun⟩

end Worker

namespace Pipeline

variable [DecidableEq Task] {pipeline next : Pipeline Task Event numShards} {label : PipelineLabel Task Event numShards}
  {worker : Fin numShards}

theorem own_step (own : label.ByWorker worker) (stepped : system.step pipeline label = some next) :
    WorkerMoves numShards pipeline.ring.cursor pipeline.shutdown (pipeline.workers worker)
        (next.workers worker) ∧ SameShared pipeline next := by
  have positive : 0 < numShards := worker.pos
  cases step_moves stepped with
  | full | check | claim | write | publish | stop => cases own
  | poll polling newer =>
    cases own
    refine ⟨?_, rfl, rfl, rfl⟩
    simpa using WorkerMoves.newer polling newer
  | pollIdle polling current =>
    cases own
    refine ⟨?_, rfl, rfl, rfl⟩
    simpa using WorkerMoves.idle polling (not_lt.mp current)
  | checkShutdown checking =>
    cases own
    refine ⟨?_, rfl, rfl, rfl⟩
    simpa using WorkerMoves.tested checking
  | handle draining taken =>
    cases own
    obtain ⟨_, position, _, within, _⟩ := nextHandled_some taken
    refine ⟨?_, rfl, rfl, rfl⟩
    rw [position] at within
    simpa [position] using WorkerMoves.handled draining within
  | drained draining done =>
    cases own
    refine ⟨?_, rfl, rfl, rfl⟩
    simpa using WorkerMoves.drained draining (nextHandled_none positive done)
  | gate gating =>
    cases own
    refine ⟨?_, rfl, rfl, rfl⟩
    simpa using WorkerMoves.gated gating

theorem other_step (elsewhere : label.Elsewhere worker) (stepped : system.step pipeline label = some next) :
    next.workers worker = pipeline.workers worker ∧ next.ring.cursor = pipeline.ring.cursor ∧
      (pipeline.shutdown = true → next.shutdown = true) := by
  cases step_moves stepped with
  | publish => cases elsewhere
  | full | check | claim | write => exact ⟨rfl, rfl, id⟩
  | stop => exact ⟨rfl, rfl, fun _ => rfl⟩
  | poll | pollIdle | checkShutdown | handle | drained | gate =>
    exact ⟨if_neg (Ne.symm elsewhere), rfl, id⟩

theorem own_enabled (worker : Fin numShards) (looping : (pipeline.workers worker).phase ≠ .exited) :
    ∃ label next, label.ByWorker worker ∧ system.step pipeline label = some next := by
  cases phase : (pipeline.workers worker).phase with
  | polling =>
    by_cases newer : (pipeline.workers worker).consumerSeq < pipeline.ring.cursor
    · exact ⟨.poll worker, _, rfl, (Moves.poll phase newer).step⟩
    · exact ⟨.poll worker, _, rfl, (Moves.pollIdle phase newer).step⟩
  | checkingShutdown => exact ⟨.checkShutdown worker, _, rfl, (Moves.checkShutdown phase).step⟩
  | draining cursor =>
    cases taken : pipeline.nextHandled worker cursor with
    | none => exact ⟨.drain worker, _, rfl, (Moves.drained phase taken).step⟩
    | some => exact ⟨.drain worker, _, rfl, (Moves.handle phase taken).step⟩
  | gating => exact ⟨.gate worker, _, rfl, (Moves.gate phase).step⟩
  | exited => exact absurd phase looping

abbrev Unpublished (worker : Fin numShards) (start : Pipeline Task Event numShards) :
    Nat → Pipeline Task Event numShards → Prop :=
  system.Counted (fun label => label.ByWorker worker) (fun label => label.Elsewhere worker) start

/-- If nothing more is published, the worker leaves its loop after finitely many steps. -/
def Exits (pipeline : Pipeline Task Event numShards) (worker : Fin numShards) : Prop :=
  system.Ends (fun label => label.ByWorker worker) (fun label => label.Elsewhere worker)
    (fun later => (later.workers worker).phase = .exited) pipeline

/-- The sequences that the documentation gives to a worker. -/
def Assigned (worker : Fin numShards) (sequence : Int) : Prop :=
  ∃ index : Nat, sequence = worker.val + numShards * (index : Int)

/-- The worker leaves its loop and has then handled what is its own up to the cursor. -/
def ExitsHandling (pipeline : Pipeline Task Event numShards) (worker : Fin numShards) : Prop :=
  pipeline.Exits worker ∧ ∀ steps later, Unpublished worker pipeline steps later →
    (later.workers worker).phase = .exited → ∀ sequence, Assigned worker sequence →
      sequence ≤ pipeline.ring.cursor → sequence ∈ later.handledBy worker

variable {later : Pipeline Task Event numShards} {steps : Nat}

theorem unpublished_invariant (holds : Int → Worker → Prop)
    (kept : ∀ cursor shutdown before after, holds cursor before →
      WorkerMoves numShards cursor shutdown before after → holds cursor after)
    (initial : holds pipeline.ring.cursor (pipeline.workers worker)) (run : Unpublished worker pipeline steps later) :
    later.ring.cursor = pipeline.ring.cursor ∧ holds pipeline.ring.cursor (later.workers worker) := by
  refine run.invariant (fun state => state.ring.cursor = pipeline.ring.cursor ∧
    holds pipeline.ring.cursor (state.workers worker)) ⟨rfl, initial⟩ ?_ ?_
  · intro before label after own stepped invariant
    obtain ⟨same, holding⟩ := invariant
    obtain ⟨moved, shared⟩ := own_step own stepped
    rw [same] at moved
    exact ⟨shared.cursor.trans same, kept _ _ _ _ holding moved⟩
  · intro before label after elsewhere stepped invariant
    obtain ⟨same, holding⟩ := invariant
    obtain ⟨unchanged, cursor, _⟩ := other_step elsewhere stepped
    exact ⟨cursor.trans same, unchanged ▸ holding⟩

theorem exits_of_aligned (stopped : pipeline.shutdown = true) (aligned : (pipeline.workers worker).Leaving ∨
      (pipeline.workers worker).Aligned numShards pipeline.ring.cursor) : pipeline.Exits worker := by
  have positive : 0 < numShards := worker.pos
  refine ⟨⟨(pipeline.workers worker).stepsLeft pipeline.ring.cursor, ?_⟩, ?_⟩
  · intro steps state run
    have within := run.le_measure (fun state => state.shutdown = true ∧ state.ring.cursor = pipeline.ring.cursor ∧
        ((state.workers worker).Leaving ∨ (state.workers worker).Aligned numShards pipeline.ring.cursor))
      (fun state => (state.workers worker).stepsLeft pipeline.ring.cursor)
      ⟨stopped, rfl, aligned⟩ ?_ ?_
    · exact (Nat.le_add_right _ _).trans within.2
    · intro before label after own stepped invariant
      obtain ⟨down, same, onStride⟩ := invariant
      obtain ⟨moved, shared⟩ := own_step own stepped
      rw [same, down] at moved
      have down := shared.shutdown.trans down
      have same := shared.cursor.trans same
      rcases onStride with leaving | onStride
      · obtain ⟨exited, _, fewer⟩ := leaving.moves rfl moved
        exact ⟨⟨down, same, .inl (.inr exited)⟩, fewer⟩
      · exact ⟨⟨down, same, .inr (onStride.moves moved)⟩, Worker.stepsLeft_lt positive onStride moved⟩
    · intro before label after elsewhere stepped invariant
      obtain ⟨down, same, onStride⟩ := invariant
      obtain ⟨unchanged, cursor, stays⟩ := other_step elsewhere stepped
      refine ⟨⟨stays down, cursor.trans same, unchanged ▸ onStride⟩, ?_⟩
      rw [unchanged]
  · intro steps state _ looping
    exact own_enabled worker looping

section

variable (astray : (pipeline.workers worker).Astray numShards pipeline.ring.cursor)
include astray

theorem never_exits_of_astray
    (run : Unpublished worker pipeline steps later) : (later.workers worker).phase ≠ .exited :=
  (unpublished_invariant (Worker.Astray numShards) (fun _ _ _ _ holding moved => holding.moves moved) astray run).2.looping.2

theorem not_exits_of_astray : ¬pipeline.Exits worker := by
  intro exits
  obtain ⟨_, _, run, exited⟩ := exits.exists_done
  exact never_exits_of_astray astray run exited

end

theorem handled_of_exited {later : Pipeline Task Event 1} {start : Pipeline Task Event 1} {worker : Fin 1}
    (onStride : start.OnStride) (current : (start.workers worker).Current start.ring.cursor)
    (run : Unpublished worker start steps later) (exited : (later.workers worker).phase = .exited) {sequence : Int}
    (assigned : Assigned worker sequence) (within : sequence ≤ start.ring.cursor) : sequence ∈ later.handledBy worker := by
  have laterStride : later.OnStride := run.invariant OnStride onStride (fun _ _ _ _ stepped holding => holding.step stepped)
    (fun _ _ _ _ stepped holding => holding.step stepped)
  obtain ⟨_, laterCurrent⟩ := unpublished_invariant Worker.Current (fun _ _ _ _ holding moved => holding.moves moved) current run
  have caughtUp := laterCurrent (.inr exited)
  obtain ⟨_, _, history⟩ := laterStride worker
  obtain ⟨index, _⟩ := assigned
  rw [history, mem_stride]
  exact ⟨index, by omega, by omega⟩

theorem current_of_handling {start : Pipeline Task Event 1} {worker : Fin 1} (onStride : start.OnStride)
    (stopped : start.shutdown = true) (published : 0 ≤ start.ring.cursor) (handling : start.ExitsHandling worker) :
    (start.workers worker).Current start.ring.cursor := by
  intro leaving
  obtain ⟨steps, later, run, exited, stays⟩ : ∃ steps later, Unpublished worker start steps later ∧
      (later.workers worker).phase = .exited ∧ (later.workers worker).consumerSeq = (start.workers worker).consumerSeq := by
    rcases leaving with checking | exited
    · have own : PipelineLabel.ByWorker worker (.checkShutdown worker : PipelineLabel Task Event 1) := rfl
      have stepped := (Moves.checkShutdown checking).step
      obtain ⟨moved, _⟩ := own_step own stepped
      obtain ⟨exited, stays, _⟩ := Worker.Leaving.moves (.inl checking) stopped moved
      exact ⟨1, _, .own .refl own stepped, exited, stays⟩
    · exact ⟨0, start, .refl, exited, rfl⟩
  have laterStride : later.OnStride := run.invariant OnStride onStride (fun _ _ _ _ stepped holding => holding.step stepped)
    (fun _ _ _ _ stepped holding => holding.step stepped)
  obtain ⟨_, _, history⟩ := laterStride worker
  have last := handling.2 steps later run exited start.ring.cursor ⟨start.ring.cursor.toNat, by omega⟩ (le_refl _)
  rw [history, mem_stride] at last
  obtain ⟨index, _, _⟩ := last
  omega

omit [DecidableEq Task] in
theorem SoloInvariant.consumer_le (solo : pipeline.SoloInvariant) (onStride : pipeline.OnStride) (worker : Fin numShards) :
    (pipeline.workers worker).consumerSeq ≤ pipeline.ring.cursor ∨
      (pipeline.workers worker).consumerSeq = (worker.val : Int) - 1 := by
  obtain ⟨count, position, history⟩ := onStride worker
  cases count with
  | zero => exact .inr (by simpa using position)
  | succ count =>
    left
    have last : (pipeline.workers worker).consumerSeq ∈ pipeline.handledBy worker := by
      rw [history, mem_stride, position]
      exact ⟨count, Nat.lt_succ_self _, by push_cast; rfl⟩
    obtain ⟨entry, member, _⟩ := List.mem_map.mp last
    obtain ⟨_, published, _⟩ :=
      solo.faithful entry (List.mem_of_mem_filter member)
    have bounds := solo.published_bounds published
    omega

theorem exits_iff_of_solo (solo : pipeline.SoloInvariant) (onStride : pipeline.OnStride)
    (stopped : pipeline.shutdown = true) : pipeline.Exits worker ↔ (pipeline.workers worker).Leaving ∨
      pipeline.ring.cursor < worker.val ∨ (numShards : Int) ∣ pipeline.ring.cursor + 1 - worker.val := by
  obtain ⟨count, _⟩ := onStride worker
  constructor
  · intro exits
    by_contra neither
    push Not at neither
    obtain ⟨looping, _, apart⟩ := neither
    have away : ¬(numShards : Int) ∣ pipeline.ring.cursor - (pipeline.workers worker).consumerSeq := by
      rintro ⟨distance, _⟩
      refine apart ⟨distance + count, ?_⟩
      rw [mul_add]
      omega
    have behind : (pipeline.workers worker).consumerSeq < pipeline.ring.cursor := by
      rcases solo.consumer_le onStride worker with below | _
      · refine lt_of_le_of_ne below ?_
        intro same
        exact away ⟨0, by omega⟩
      · omega
    exact not_exits_of_astray ⟨behind, away, not_or.mp looping, solo.reading worker⟩ exits
  · rintro (leaving | _ | ⟨distance, _⟩)
    · exact exits_of_aligned stopped (.inl leaving)
    · have scaled : (0 : Int) ≤ numShards * (count : Int) := by positivity
      exact exits_of_aligned stopped (.inr (.inl (by omega)))
    · refine exits_of_aligned stopped (.inr (.inr ⟨distance - count, ?_⟩))
      rw [mul_sub]
      omega

/-- After a stop all workers leave their loops and have handled what the documentation
gives them up to the final cursor, if and only if nothing was published, or there is one worker
and it does not look at the flag, or has left, behind the cursor; with a single producer, a worker
leaves its loop at all if and only if it looks at the flag or has left, or the cursor lies on its
stride or before it. -/
theorem stopped_workers_exit_iff {capacity : Nat} {blank : Nat → Event} {start state : Pipeline Task Event numShards}
    (positive : 0 < numShards) (built : build Task numShards capacity blank = .ok start) (reached : system.Reachable start state)
    (stopped : state.shutdown = true) : ((∀ worker, state.ExitsHandling worker) ↔
      numShards = 1 ∧ (∀ worker, (state.workers worker).Current state.ring.cursor) ∨ state.ring.cursor < 0) ∧
    (system.Reaches Solo start state → ∀ worker, state.Exits worker ↔ (state.workers worker).Leaving ∨
      state.ring.cursor < worker.val ∨ (numShards : Int) ∣ state.ring.cursor + 1 - worker.val) := by
  have onStride := onStride_of_reachable built reached
  refine ⟨⟨?_, ?_⟩, ?_⟩
  · intro all
    refine or_iff_not_imp_right.mpr fun published => ?_
    rw [not_lt] at published
    have single : numShards = 1 := by
      by_contra several
      obtain ⟨exits, handles⟩ := all ⟨0, positive⟩
      obtain ⟨steps, later, run, exited⟩ := exits.exists_done
      have first := handles steps later run exited 0 ⟨0, by simp⟩ published
      have laterStride : later.OnStride := run.invariant OnStride onStride (fun _ _ _ _ stepped holding => holding.step stepped)
        (fun _ _ _ _ stepped holding => holding.step stepped)
      obtain ⟨_, _, history⟩ := laterStride ⟨0, positive⟩
      rw [history, mem_stride] at first
      obtain ⟨index, _, same⟩ := first
      have scaled : (numShards : Int) * 1 ≤ numShards * ((index : Int) + 1) :=
        mul_le_mul_of_nonneg_left (by omega) (by omega)
      simp only at same
      omega
    subst single
    exact ⟨rfl, fun worker => current_of_handling onStride stopped published (all worker)⟩
  · rintro (⟨rfl, current⟩ | _) worker
    · refine ⟨exits_of_aligned stopped (.inr (.inr (by simp))), ?_⟩
      intro steps later run exited sequence assigned within
      exact handled_of_exited onStride (current worker) run exited assigned within
    · obtain ⟨count, _⟩ := onStride worker
      have scaled : (0 : Int) ≤ numShards * (count : Int) := by positivity
      refine ⟨exits_of_aligned stopped (.inr (.inl (by omega))), ?_⟩
      intro steps later _ _ sequence assigned within
      obtain ⟨index, _⟩ := assigned
      have above : (0 : Int) ≤ numShards * (index : Int) := by positivity
      omega
  · intro alone worker
    exact exits_iff_of_solo (soloInvariant_of_reaches built alone) onStride stopped

theorem oneShard_stopped_worker_exits : ∃ state, system.Reachable oneShard state ∧ state.shutdown = true ∧ state.ring.cursor = 0 ∧
      ∀ worker, state.ExitsHandling worker := by
  obtain ⟨state, reached, stopped, cursor, polling⟩ := exists_reachable_of_run system oneShard (publishing () 10 ++ [.stop])
    (fun state => state.shutdown = true ∧ state.ring.cursor = 0 ∧ ∀ worker, (state.workers worker).phase = .polling) (by decide)
  have current : ∀ worker, (state.workers worker).Current state.ring.cursor := by
    intro worker leaving
    simp [Worker.Leaving, polling worker] at leaving
  refine ⟨state, reached, stopped, cursor, ?_⟩
  exact (stopped_workers_exit_iff (by decide) oneShard_built reached stopped).1.mpr (.inl ⟨rfl, current⟩)

/-- Of two workers, the first never reads the flag once the first event is published. And
a single worker that looked at the cursor just before an event was published and the
pipeline stopped leaves without it. -/
theorem stopped_workers_stuck_or_early : (∃ state, system.Reachable twoShards state ∧ state.shutdown = true ∧
      state.ring.cursor = 0 ∧ ¬state.Exits 0 ∧ ∀ steps later, Unpublished 0 state steps later →
        (later.workers 0).phase ≠ .exited) ∧ ∃ state, system.Reachable oneShard state ∧ state.shutdown = true ∧
      state.ring.cursor = 0 ∧ (state.workers 0).phase = .exited ∧ state.handled = [] ∧ ¬state.ExitsHandling 0 := by
  constructor
  · obtain ⟨state, reached, stopped, cursor, polling⟩ := exists_reachable_of_run system twoShards (publishing () 10 ++ [.stop])
      (fun state => state.shutdown = true ∧ state.ring.cursor = 0 ∧ state.workers 0 = ⟨-1, .polling⟩) (by decide)
    have astray : (state.workers 0).Astray 2 state.ring.cursor := by
      rw [polling, cursor]
      exact ⟨by decide, by decide, by decide, nofun⟩
    exact ⟨state, reached, stopped, cursor, not_exits_of_astray astray, fun steps later run => never_exits_of_astray astray run⟩
  · obtain ⟨state, reached, stopped, cursor, exited, unhandled⟩ :=
      exists_reachable_of_run system oneShard ([.poll 0] ++ publishing () 10 ++ [.stop, .checkShutdown 0])
        (fun state => state.shutdown = true ∧ state.ring.cursor = 0 ∧
          (state.workers 0).phase = .exited ∧ state.handled = []) (by decide)
    refine ⟨state, reached, stopped, cursor, exited, unhandled, ?_⟩
    rintro ⟨_, handles⟩
    have first := handles 0 state .refl exited 0 ⟨0, by simp⟩ (by omega)
    simp [handledBy, unhandled] at first

end Pipeline

end Blazil.Engine
