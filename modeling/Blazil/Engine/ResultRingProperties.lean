import Blazil.Engine.FlushProperties
import Blazil.Engine.Recording
import Blazil.Engine.ResultRing

/-! An engine with a result ring, against one that keeps every result. The ring and the
map together hold the results of the sequences that the reader has not taken, as long as
these sequences span at most one lap of the ring. -/

set_option autoImplicit false

namespace Blazil.Engine

open Blazil.Common Blazil.Ledger Foundation

def TransactionResult.committedId : TransactionResult → Option TransferId
  | .committed transferId => some transferId
  | .rejected _ => none

/-- A ring and a map hold between them the results of `history` from `low` on. -/
structure Mirrors (ring : ResultRing) (map history : Results) (low : Int) : Prop where
  rejections : ∀ sequence, map sequence =
    if low ≤ sequence then (history sequence).filter TransactionResult.isRejected else none
  commits : SlotTable.Holds ring (fun sequence => (history sequence).bind TransactionResult.committedId) low

variable {transferId : TransferId}

namespace Mirrors

variable {ring : ResultRing} {map history : Results} {low sequence : Int}

section

variable (mirrors : Mirrors ring map history low)
include mirrors

theorem reject (reason : BlazerError) (above : low ≤ sequence)
    (undecided : history sequence = none) : Mirrors ring (map.insert sequence (.rejected reason))
      (history.insert sequence (.rejected reason)) low := by
  constructor
  · intro other
    by_cases same : other = sequence
    · rw [same, Results.insert_same, Results.insert_same, if_pos above]
      rfl
    · rw [Results.insert_other _ same, Results.insert_other _ same]
      exact mirrors.rejections other
  · intro other atLeast withinLap
    rw [mirrors.commits other atLeast withinLap]
    by_cases same : other = sequence
    · simp [same, Results.insert_same, undecided, TransactionResult.committedId]
    · simp [Results.insert_other _ same]

theorem commit (transferId : TransferId) (above : low ≤ sequence)
    (below : sequence < low + ring.capacity) (undecided : history sequence = none) :
    Mirrors (ring.insert sequence transferId) map (history.insert sequence (.committed transferId)) low := by
  constructor
  · intro other
    rw [mirrors.rejections other]
    by_cases same : other = sequence
    · rw [same, Results.insert_same, undecided]
      rfl
    · rw [Results.insert_other _ same]
  · have written := mirrors.commits.set (fun other => (history.insert sequence (.committed transferId) other).bind
        TransactionResult.committedId) above below
      fun other different => by rw [Results.insert_other _ different]
    rw [Results.insert_same] at written
    exact written

theorem get_low : SlotTable.get ring low = (history low).bind TransactionResult.committedId := by
  have positive := isPowerOfTwo_pos ring.power
  exact mirrors.commits low (le_refl low) (by omega)

theorem map_low : map low = (history low).filter TransactionResult.isRejected := by
  rw [mirrors.rejections low, if_pos (le_refl low)]

theorem map_undecided (undecided : history sequence = none) : map sequence = none := by
  rw [mirrors.rejections sequence, undecided]
  split <;> rfl

theorem removeCommit (unused : history (low + ring.capacity) = none)
    (known : history low = some (.committed transferId)) : Mirrors (SlotTable.set ring low none) map history (low + 1) := by
  constructor
  · intro other
    rw [mirrors.rejections other]
    by_cases same : other = low
    · rw [same, known, if_pos (le_refl low), if_neg (show ¬low + 1 ≤ low by omega)]
      rfl
    · simp only [show low + 1 ≤ other ↔ low ≤ other by omega]
  · have shifted := mirrors.commits.shift
    rw [unused] at shifted
    exact shifted

theorem removeRejection {reason} (unused : history (low + ring.capacity) = none)
    (known : history low = some (.rejected reason)) : Mirrors ring (map.remove low) history (low + 1) := by
  constructor
  · intro other
    unfold Results.remove
    split
    · next same => rw [same, if_neg (show ¬low + 1 ≤ low by omega)]
    · next different =>
      rw [mirrors.rejections other]
      simp only [show low + 1 ≤ other ↔ low ≤ other by omega]
  · have shifted := mirrors.commits.shift
    have pending : SlotTable.get ring low = none := by
      rw [mirrors.get_low, known]
      rfl
    rw [unused, Option.bind_none, ← pending, SlotTable.set_get] at shifted
    exact shifted

end

end Mirrors

theorem mirrors_started {capacity : Nat} (power : isPowerOfTwo capacity = true) :
    Mirrors (ResultRing.new power) (fun _ => none) (fun _ => none) 0 :=
  ⟨fun _ => by simp, fun _ _ _ => rfl⟩

namespace RingEngine

variable {Task Tag : Type} {numShards : Nat}

theorem take_low {engine : RingEngine Task Tag numShards} {history : Results} {low : Int}
    (mirrors : Mirrors engine.ring engine.runtime.results history low) :
    engine.take low = (history low).map fun result =>
      (result, match result with
        | .committed _ => { engine with ring := SlotTable.set engine.ring low none }
        | .rejected _ => engine.setRuntime (engine.runtime.withResults (engine.runtime.results.remove low))) := by
  unfold take ResultRing.tryRemove
  rw [mirrors.get_low, mirrors.map_low]
  cases history low with
  | none => rfl
  | some result => cases result <;> rfl

end RingEngine

variable {replies : List (BlazerResult TransferId)}

namespace Runtime

variable {Task Tag : Type} {numShards : Nat} {runtime : Runtime Task Tag numShards}

section

variable (invariant : runtime.Invariant)
include invariant

theorem Invariant.handled_bounds {entry}
    (member : entry ∈ runtime.pipeline.handled) : 0 ≤ entry.sequence ∧ entry.sequence ≤ runtime.pipeline.ring.cursor := by
  obtain ⟨_, published, same, _⟩ := invariant.solo.faithful entry member
  exact same ▸ invariant.solo.published_bounds published

theorem Invariant.touched_bounds {sequence : Int}
    (touched : ¬runtime.Untouched sequence) : 0 ≤ sequence ∧ sequence ≤ runtime.pipeline.ring.cursor := by
  by_contra outside
  refine touched (invariant.accounting.unhandled sequence fun entry member same => outside ?_)
  exact same ▸ invariant.handled_bounds member

theorem Invariant.beyond_undecided {sequence : Int}
    (beyond : runtime.pipeline.ring.cursor < sequence) : runtime.results sequence = none := by
  by_contra decided
  have bounds := invariant.touched_bounds fun untouched => decided untouched.undecided
  omega

end

section Steps

variable [ExternalCrates] {risk : RiskHandler} {runtime next : Runtime Task Tag numShards}

theorem Invariant.cursor_of_step [DecidableEq Task] {label}
    (invariant : runtime.Invariant) (stepped : runtime.step risk label = some next) :
    next.pipeline.ring.cursor = runtime.pipeline.ring.cursor ∨ (∃ task, label = .pipeline (.publish task)) ∧
        next.pipeline.ring.cursor = runtime.pipeline.ring.cursor + 1 := by
  cases step_moves stepped with
  | pipeline _ moved =>
    rcases invariant.solo.cursor_of_step moved with same | ⟨⟨task, rfl⟩, advanced⟩
    · exact .inl same
    · exact .inr ⟨⟨task, rfl⟩, advanced⟩
  | drained draining done moved =>
    cases Pipeline.step_drain_none draining done moved
    exact .inl rfl
  | handled draining taken _ moved =>
    cases Pipeline.step_drain_some draining taken moved
    exact .inl rfl
  | attempted | recorded | finished => exact .inl rfl

theorem chainEffect_withResults (risk : RiskHandler) {history entry}
    (transferId : TransferId) (now : Nat) (undecided : runtime.results entry.sequence = none)
    (undecided' : history entry.sequence = none) :
    ∃ after, (runtime.withResults history).chainEffect risk entry transferId now =
        { runtime.chainEffect risk entry transferId now with results := after } ∧
      ((runtime.chainEffect risk entry transferId now).results = runtime.results ∧ after = history ∨
        ∃ reason, (runtime.chainEffect risk entry transferId now).results =
            runtime.results.insert entry.sequence (.rejected reason) ∧
          after = history.insert entry.sequence (.rejected reason)) := by
  unfold chainEffect
  rw [withResults_results, withResults_handlers]
  cases verdict : chainVerdict risk transferId entry.event.event with
  | error reason =>
    rw [runHandlers_rejected undecided verdict, runHandlers_rejected undecided' verdict]
    exact ⟨_, rfl, .inr ⟨reason, rfl, rfl⟩⟩
  | ok =>
    rw [runHandlers_admitted undecided verdict, runHandlers_admitted undecided' verdict]
    split <;> exact ⟨history, rfl, .inl ⟨rfl, rfl⟩⟩

variable [DecidableEq Task]

theorem step_pipeline_withResults {label}
    (history : Results) (stepped : runtime.step risk (.pipeline label) = some next) :
    (runtime.withResults history).step risk (.pipeline label) = some (next.withResults history) := by
  cases label with
  | drain => cases stepped
  | _ =>
    simp only [step, Option.map_eq_some_iff] at stepped ⊢
    obtain ⟨pipeline, moved, rfl⟩ := stepped
    exact ⟨pipeline, moved, rfl⟩

theorem step_attempt_withResults {index applied}
    (history : Results) (stepped : runtime.step risk (.attempt index applied replies) = some next) :
    (runtime.withResults history).step risk (.attempt index applied replies) = some (next.withResults history) := by
  cases step_moves stepped with
  | attempted found answered within =>
    simp only [step, withResults_tasks, found]
    rw [if_pos ⟨answered, within⟩]
    rfl

theorem step_drain_withResults {worker now history}
    (undecided : ∀ entry ∈ runtime.upcoming worker, runtime.results entry.sequence = none ∧ history entry.sequence = none)
    (stepped : runtime.step risk (.drain worker transferId now) = some next) :
    ∃ after, (runtime.withResults history).step risk (.drain worker transferId now) = some (next.withResults after) ∧
      (next.results = runtime.results ∧ after = history ∨ ∃ entry ∈ runtime.upcoming worker, ∃ reason,
          next.results = runtime.results.insert entry.sequence (.rejected reason) ∧
          after = history.insert entry.sequence (.rejected reason)) := by
  cases phase : (runtime.pipeline.workers worker).phase with
  | draining cursor =>
    cases taken : runtime.pipeline.nextHandled worker cursor with
    | none =>
      simp only [step, phase, taken, Option.map_eq_some_iff] at stepped
      obtain ⟨_, moved, rfl⟩ := stepped
      refine ⟨history, ?_, .inl ⟨rfl, rfl⟩⟩
      simp [step, phase, taken, moved, withResults]
    | some entry =>
      have coming : entry ∈ runtime.upcoming worker := (upcoming_eq phase).trans taken
      obtain ⟨first, second⟩ := undecided entry coming
      obtain ⟨after, effect, written⟩ :=
        chainEffect_withResults risk transferId now first second
      simp only [step, phase, taken] at stepped
      split at stepped
      · cases stepped
      · next ready =>
        obtain ⟨_, moved, rfl⟩ := Option.map_eq_some_iff.mp stepped
        refine ⟨after, ?_, ?_⟩
        · simp only [step, withResults_pipeline, withResults_activeTasks, phase, taken, effect]
          rw [if_neg ready, moved]
          rfl
        · rcases written with kept | ⟨reason, map, same⟩
          · exact .inl kept
          · exact .inr ⟨entry, coming, reason, map, same⟩
  | _ => simp [step, phase] at stepped

end Steps

end Runtime

namespace RingEngine

variable {Task Tag : Type} {numShards : Nat}

/-- The engine against one whose results are `history`: every sequence below `low` has
been taken, and those published since span at most one lap of the ring. -/
structure Tracks (engine : RingEngine Task Tag numShards) (history : Results) (low : Int) : Prop where
  invariant : (engine.runtime.withResults history).Invariant
  recorded : (engine.runtime.withResults history).Recorded
  mirrors : Mirrors engine.ring engine.runtime.results history low
  nonneg : 0 ≤ low
  taken : ∀ sequence, 0 ≤ sequence → sequence < low → (history sequence).isSome = true
  window : engine.runtime.pipeline.ring.cursor < low + engine.ring.capacity

theorem tracks_started {capacity : Nat} {blank : Nat → Job Tag} {pipeline : Pipeline Task (Job Tag) numShards}
    (built : Pipeline.build Task numShards capacity blank = .ok pipeline) :
    (started pipeline).Tracks (fun _ => none) 0 where
  invariant := Runtime.invariant_started built
  recorded := Runtime.recorded_started pipeline
  mirrors := mirrors_started pipeline.ring.powerOfTwo
  nonneg := le_refl 0
  taken sequence nonneg below := by omega
  window := by
    obtain ⟨_, rfl⟩ := Pipeline.build_eq built
    change (-1 : Int) < 0 + capacity
    omega

variable {engine : RingEngine Task Tag numShards} {history : Results} {low : Int}

section

variable (tracks : engine.Tracks history low)
include tracks

theorem Tracks.within {sequence : Int} (undecided : history sequence = none) (nonneg : 0 ≤ sequence)
    (published : sequence ≤ engine.runtime.pipeline.ring.cursor) : low ≤ sequence ∧ sequence < low + engine.ring.capacity := by
  constructor
  · by_contra below
    have known := tracks.taken sequence nonneg (by omega)
    rw [undecided] at known
    cases known
  · have window := tracks.window
    omega

theorem Tracks.recording_within {index next : Nat} {batch} {sequence : Int} {transfer : Transfer}
    (found : engine.runtime.tasks[index]? = some ⟨batch, .recording replies next⟩)
    (position : batch[next]? = some (sequence, transfer)) :
    history sequence = none ∧ low ≤ sequence ∧ sequence < low + engine.ring.capacity := by
  have undecided : history sequence = none :=
    tracks.invariant.settling.recording_undecided found position
  have dispatched : 0 < (engine.runtime.withResults history).timesDispatched sequence :=
    Runtime.timesDispatched_pos (Runtime.mem_dispatched found (List.mem_of_getElem? position))
  obtain ⟨nonneg, published⟩ := tracks.invariant.touched_bounds fun untouched =>
    absurd untouched.batched (Nat.ne_of_gt dispatched)
  exact ⟨undecided, tracks.within undecided nonneg published⟩

theorem Tracks.upcoming_within {worker entry} (coming : entry ∈ engine.runtime.upcoming worker) :
    history entry.sequence = none ∧ low ≤ entry.sequence ∧ entry.sequence < low + engine.ring.capacity := by
  unfold Runtime.upcoming at coming
  split at coming
  · next cursor draining =>
    have untouched := Runtime.untouched_of_taken tracks.invariant.onStride tracks.invariant.accounting coming
    obtain ⟨_, member, same, _⟩ :=
      tracks.invariant.solo.nextHandled_source draining coming
    obtain ⟨nonneg, published⟩ := tracks.invariant.solo.published_bounds member
    rw [same] at nonneg published
    exact ⟨untouched.undecided, tracks.within untouched.undecided nonneg published⟩
  · cases coming

theorem Tracks.take_some {next : RingEngine Task Tag numShards} {result : TransactionResult}
    (took : engine.take low = some (result, next)) : history low = some result ∧ next.Tracks history (low + 1) ∧
      next.runtime.withResults history = engine.runtime.withResults history := by
  rw [take_low tracks.mirrors] at took
  obtain ⟨found, known, same⟩ := Option.map_eq_some_iff.mp took
  obtain ⟨rfl, rfl⟩ := Prod.mk.inj same
  have window := tracks.window
  have unused : history (low + engine.ring.capacity) = none :=
    tracks.invariant.beyond_undecided window
  have taken : ∀ sequence, 0 ≤ sequence → sequence < low + 1 → (history sequence).isSome = true := by
    intro sequence nonneg below
    by_cases last : sequence = low
    · rw [last, known]
      rfl
    · exact tracks.taken sequence nonneg (by omega)
  refine ⟨known, ?_⟩
  have nonneg := tracks.nonneg
  cases found with
  | committed =>
    refine ⟨⟨tracks.invariant, tracks.recorded, ?_, by omega, taken, ?_⟩, rfl⟩
    · exact tracks.mirrors.removeCommit unused known
    · change engine.runtime.pipeline.ring.cursor < low + 1 + engine.ring.capacity
      omega
  | rejected =>
    refine ⟨⟨tracks.invariant, tracks.recorded, ?_, by omega, taken, ?_⟩, rfl⟩
    · exact tracks.mirrors.removeRejection unused known
    · change engine.runtime.pipeline.ring.cursor < low + 1 + engine.ring.capacity
      omega

theorem Tracks.take_none (nothing : engine.take low = none) : history low = none := by
  rw [take_low tracks.mirrors] at nothing
  exact Option.map_eq_none_iff.mp nothing

end

section Steps

variable [ExternalCrates] [DecidableEq Task] {risk : RiskHandler} {engine : RingEngine Task Tag numShards} {history : Results}
  {low : Int} {label : RuntimeLabel Task Tag numShards}

private theorem simulate_runtime {next} (tracks : engine.Tracks history low)
    (uncommitted : ∀ index batch replies place sequence transfer transferId, label = .record index →
      engine.runtime.tasks[index]? = some ⟨batch, .recording replies place⟩ →
      (batch.zip replies)[place]? ≠ some ((sequence, transfer), .ok transferId))
    (stepped : engine.runtime.step risk label = some next) :
    ∃ after, (engine.runtime.withResults history).step risk label =
        some (next.withResults after) ∧ Mirrors engine.ring next.results after low := by
  cases label with
  | pipeline =>
    refine ⟨history, Runtime.step_pipeline_withResults history stepped, ?_⟩
    cases Runtime.step_moves stepped with
    | pipeline => exact tracks.mirrors
  | attempt =>
    refine ⟨history, Runtime.step_attempt_withResults history stepped, ?_⟩
    cases Runtime.step_moves stepped with
    | attempted => exact tracks.mirrors
  | drain worker =>
    have undecided : ∀ entry ∈ engine.runtime.upcoming worker,
        engine.runtime.results entry.sequence = none ∧ history entry.sequence = none := by
      intro entry coming
      have unknown := (tracks.upcoming_within coming).1
      exact ⟨tracks.mirrors.map_undecided unknown, unknown⟩
    obtain ⟨after, simulated, written⟩ := Runtime.step_drain_withResults undecided stepped
    refine ⟨after, simulated, ?_⟩
    rcases written with ⟨kept, rfl⟩ | ⟨_, coming, reason, inserted, rfl⟩
    · rw [kept]
      exact tracks.mirrors
    · obtain ⟨unknown, above, _⟩ := tracks.upcoming_within coming
      rw [inserted]
      exact tracks.mirrors.reject reason above unknown
  | record index =>
    cases Runtime.step_moves stepped with
    | finished found done =>
      refine ⟨history, ?_, tracks.mirrors⟩
      simp only [Runtime.step, Runtime.withResults_tasks, found, done]
      rfl
    | @recorded _ place batch replies sequence _ reply found entry =>
      obtain ⟨unknown, above, _⟩ :=
        tracks.recording_within found (Runtime.getElem?_of_zip entry)
      cases reply with
      | ok =>
        exact absurd entry (uncommitted index batch replies place _ _ _ rfl found)
      | error reason =>
        refine ⟨history.insert sequence (.rejected reason), ?_, tracks.mirrors.reject reason above unknown⟩
        simp only [Runtime.step, Runtime.withResults_tasks, found, entry]
        rfl

/-- Each step is a step of the engine that keeps every result. -/
theorem Tracks.simulate {next} (tracks : engine.Tracks history low) (stepped : engine.step risk label = some next) :
    ∃ after, (engine.runtime.withResults history).step risk label = some (next.runtime.withResults after) ∧
      Mirrors next.ring next.runtime.results after low ∧ next.ring.capacity = engine.ring.capacity := by
  cases step_moves stepped with
  | @committed _ _ _ _ sequence _ transferId found entry =>
    obtain ⟨unknown, above, below⟩ :=
      tracks.recording_within found (Runtime.getElem?_of_zip entry)
    refine ⟨history.insert sequence (.committed transferId), ?_, tracks.mirrors.commit transferId above below unknown, rfl⟩
    simp only [Runtime.step, Runtime.withResults_tasks, found, entry]
    rfl
  | runtime uncommitted moved =>
    obtain ⟨after, simulated, mirrors⟩ := simulate_runtime tracks uncommitted moved
    exact ⟨after, simulated, mirrors, rfl⟩

/-- A publication leaves room in the ring for the sequences not yet taken. -/
def Roomy (engine : RingEngine Task Tag numShards) (low : Int) : RuntimeLabel Task Tag numShards → Prop
  | .pipeline (.publish _) => engine.runtime.pipeline.ring.cursor + 1 < low + engine.ring.capacity
  | _ => True

theorem Tracks.step {next} (tracks : engine.Tracks history low)
    (alone : engine.runtime.Solo label) (roomy : engine.Roomy low label) (stepped : engine.step risk label = some next) :
    ∃ after, (engine.runtime.withResults history).step risk label =
        some (next.runtime.withResults after) ∧ next.Tracks after low := by
  obtain ⟨after, simulated, mirrors, same⟩ := tracks.simulate stepped
  refine ⟨after, simulated, tracks.invariant.step alone simulated,
    tracks.recorded.step tracks.invariant simulated, mirrors, tracks.nonneg, ?_, ?_⟩
  · intro sequence nonneg below
    obtain ⟨result, known⟩ := Option.isSome_iff_exists.mp (tracks.taken sequence nonneg below)
    have kept : after sequence = some result :=
      tracks.invariant.settling.results_kept tracks.invariant.onStride tracks.invariant.accounting simulated known
    rw [kept]
    rfl
  · have window := tracks.window
    rw [same]
    rcases tracks.invariant.cursor_of_step simulated with level | ⟨⟨_, rfl⟩, advanced⟩
    · exact level ▸ window
    · exact advanced ▸ roomy

end Steps

end RingEngine

end Blazil.Engine
