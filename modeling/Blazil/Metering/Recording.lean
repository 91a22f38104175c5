import Blazil.Foundation.Transition
import Blazil.Metering.Flusher
import Mathlib.Data.BitVec
import Mathlib.Tactic.LinearCombination

/-! Calls of `Record` from any number of goroutines, side by side with any number of flushes that
fail without having stored anything; and the windows in which a writer that never fails stores the
units. A flush gives all units since the one before it the window of its own tick. -/

set_option autoImplicit false

namespace Blazil.Metering

open Foundation

inductive RecordPhase where
  /-- Under the read lock of the shard. -/
  | looking
  /-- Under its write lock. -/
  | allocating
  | adding
  | returned
deriving DecidableEq

/-- An `atomic.Int64`, whose sums wrap. -/
abbrev Word := BitVec 64

structure RecordCall where
  tenantId : TenantId
  delta : Word
  phase : RecordPhase
deriving DecidableEq

def RecordCall.advance (recorder : Recorder Word) (call : RecordCall) : Option (Recorder Word × RecordPhase) :=
  match call.phase with
  | .looking =>
    some (recorder, if (recorder.get call.tenantId).isSome then .adding else .allocating)
  | .allocating => some (recorder.locate call.tenantId, .adding)
  | .adding => some (recorder.add call.tenantId call.delta, .returned)
  | .returned => none

/-- The recorder with its callers and flushers, and all rows that `UpsertUsage` has accepted. -/
structure UsageMeter where
  recorder : Recorder Word
  calls : List RecordCall
  flushers : List (FlusherPhase Word)
  passed : List (UsageRow Word)

inductive UsageLabel where
  | call (tenantId : TenantId) (delta : Word)
  | record (index : Nat)
  | flush (index : Nat) (cancelled : Bool) (label : FlushLabel)
deriving DecidableEq

namespace UsageMeter

def started (flushers : Nat) : UsageMeter := ⟨KeyedTable.empty, [], List.replicate flushers .waiting, []⟩

def step (meter : UsageMeter) : UsageLabel → Option UsageMeter
  | .call tenantId delta =>
    some { meter with calls := meter.calls ++ [⟨tenantId, delta, .looking⟩] }
  | .record index =>
    (meter.calls[index]?).bind fun call =>
      (call.advance meter.recorder).map fun result =>
        { meter with
          recorder := result.1
          calls := meter.calls.set index { call with phase := result.2 } }
  | .flush index cancelled label =>
    (meter.flushers[index]?).bind fun flusher =>
      (Meter.step cancelled ⟨meter.recorder, flusher, meter.passed⟩ label).map fun result =>
        { meter with
          recorder := result.recorder
          flushers := meter.flushers.set index result.flusher
          passed := result.passed }

def system : System UsageMeter UsageLabel := ⟨step⟩

def recordedBy (tenantId : TenantId) (call : RecordCall) : Word :=
  if call.tenantId = tenantId ∧ call.phase = .returned then call.delta else 0

def recorded (meter : UsageMeter) (tenantId : TenantId) : Word :=
  total (recordedBy tenantId) meter.calls

def held (meter : UsageMeter) (tenantId : TenantId) : Word :=
  total (FlusherPhase.held tenantId) meter.flushers

theorem advance_count {recorder later call phase}
    (advanced : call.advance recorder = some (later, phase)) (tenantId : TenantId) :
    later.count tenantId + recordedBy tenantId call =
      recorder.count tenantId + recordedBy tenantId { call with phase := phase } := by
  unfold RecordCall.advance at advanced
  split at advanced <;> cases advanced
  · next looking => split <;> simp [recordedBy, looking]
  · next allocating => simp [recordedBy, allocating, Recorder.count_locate]
  · next adding => simp [recordedBy, adding, Recorder.count_add]

/-- Units that callers have recorded are persisted, in the counter or held by a flush. -/
def Conserved (meter : UsageMeter) : Prop :=
  ∀ tenantId, meter.recorded tenantId = usage tenantId meter.passed + meter.recorder.count tenantId + meter.held tenantId

theorem Conserved.step {meter next label} (conserved : Conserved meter)
    (stepped : system.step meter label = some next) : Conserved next := by
  intro tenantId
  have before := conserved tenantId
  unfold recorded held at before ⊢
  cases label with
  | call =>
    cases stepped
    simpa [recordedBy] using before
  | record =>
    obtain ⟨_, found, rest⟩ := Option.bind_eq_some_iff.mp stepped
    obtain ⟨_, advanced, made⟩ := Option.map_eq_some_iff.mp rest
    subst made
    have moved := advance_count advanced tenantId
    dsimp only
    rw [total_set found]
    linear_combination before - moved
  | flush =>
    obtain ⟨_, found, rest⟩ := Option.bind_eq_some_iff.mp stepped
    obtain ⟨_, flushed, made⟩ := Option.map_eq_some_iff.mp rest
    subst made
    have moved := (Meter.step_flushes flushed).accounted_eq tenantId
    unfold Meter.accounted at moved
    dsimp only at moved ⊢
    rw [total_set found]
    linear_combination before - moved

theorem conserved_started (flushers : Nat) : Conserved (started flushers) := by
  intro tenantId
  have idle : total (FlusherPhase.held tenantId) (List.replicate flushers (.waiting : FlusherPhase Word)) = 0 := by
    induction flushers with
    | zero => rfl
    | succ _ ih =>
      rw [List.replicate_succ, total_cons, ih]
      rfl
  simp [recorded, held, started, usage, Recorder.count, idle, KeyedTable.empty, KeyedTable.get, findValue]

/-- Nothing is lost and nothing is counted twice, however recording and flushing interleave and
whichever flushes fail. -/
theorem recorded_eq_accounted {flushers : Nat} {meter : UsageMeter} (tenantId : TenantId)
    (reached : system.Reachable (started flushers) meter) :
    meter.recorded tenantId = usage tenantId meter.passed + meter.recorder.count tenantId + meter.held tenantId := by
  refine reached.invariant Conserved (conserved_started flushers) ?_ tenantId
  intro before label after _ stepped conserved
  exact conserved.step stepped

/-- The sum of two large recordings wraps. -/
theorem recorded_eq_accounted_wrapped :
    ∃ meter, system.Reachable (started 1) meter ∧ meter.recorded "a" = 0x8000000000000005#64 ∧
      usage "a" meter.passed + meter.recorder.count "a" + meter.held "a" = 0x8000000000000005#64 := by
  obtain ⟨meter, reached, wrapped⟩ := System.exists_reachable_of_run system (started 1)
    [.call "a" 0x4000000000000000#64, .record 0, .flush 0 false (.tick 90), .record 0, .record 0,
      .call "a" 0x4000000000000005#64, .record 1, .record 1]
    (fun meter => meter.recorded "a" = 0x8000000000000005#64) (by decide)
  exact ⟨meter, reached, wrapped, (recorded_eq_accounted "a" reached).symm.trans wrapped⟩

end UsageMeter

structure RecordedUnit where
  tenantId : TenantId
  recordedAt : Nat
deriving DecidableEq

/-- Calls of `Record`, and the ticks at which the flusher drains the counters. -/
inductive MeterEvent where
  | record (now : Nat) (tenantId : TenantId) (delta : Nat)
  | tick (now : Nat)
deriving DecidableEq

/-- The units since the last flush, and those that are stored with their rows. -/
structure WindowMeter where
  waiting : List RecordedUnit
  persisted : List (RecordedUnit × UsageRow Int)
deriving DecidableEq

def usageRow (windowStart : Nat) (waiting : List RecordedUnit) (tenantId : TenantId) : UsageRow Int :=
  ⟨tenantId, windowStart, windowStart + windowSize, (waiting.filter fun unit => unit.tenantId = tenantId).length⟩

namespace WindowMeter

def flushAt (meter : WindowMeter) (windowStart : Nat) : WindowMeter :=
  ⟨[], meter.persisted ++ meter.waiting.map fun unit => (unit, usageRow windowStart meter.waiting unit.tenantId)⟩

def step (meter : WindowMeter) : MeterEvent → WindowMeter
  | .record now tenantId delta =>
    { meter with waiting := meter.waiting ++ List.replicate delta ⟨tenantId, now⟩ }
  | .tick now => meter.flushAt (now - now % windowSize)

def run (events : List MeterEvent) : WindowMeter := events.foldl step ⟨[], []⟩

end WindowMeter

def usageIn (tenantId : TenantId) (windowStart : Nat) : List (UsageRow Int) → Int :=
  total fun row => if row.tenantId = tenantId ∧ row.windowStart = windowStart then row.txCount else 0

theorem usageIn_eq {tenantId windowStart own rows}
    (placed : ∀ row ∈ rows, row.windowStart = own) :
    usageIn tenantId windowStart rows = if own = windowStart then usage tenantId rows else 0 := by
  unfold usageIn usage
  induction rows with
  | nil => simp
  | cons row _ ih =>
    rw [total_cons, total_cons, ih fun later listed => placed later (.tail _ listed), placed row (.head _)]
    by_cases same : own = windowStart <;> simp [same]

def FlusherPhase.InWindow (windowStart : Nat) : FlusherPhase Int → Prop
  | .copying _ own _ _ | .swapping _ own _ _ _ => own = windowStart
  | .writing _ rows | .reinjecting _ rows => ∀ row ∈ rows, row.windowStart = windowStart
  | .waiting | .stopped => True

structure Flushing (windowStart : Nat) (start meter : Meter Int) : Prop where
  swept : meter.Swept
  accepted : ∀ final rows, meter.flusher ≠ .reinjecting final rows
  accounted : ∀ tenantId, meter.accounted tenantId = start.accounted tenantId
  passed : ∃ rows, meter.passed = start.passed ++ rows ∧ ∀ row ∈ rows, row.windowStart = windowStart
  window : meter.flusher.InWindow windowStart

theorem Flushing.step {windowStart start meter next label}
    (flushing : Flushing windowStart start meter) (flushes : meter.Flushes label next)
    (going : label.begins = false ∧ label ≠ .upsertUsage false) : Flushing windowStart start next := by
  have kept : (∃ rows, next.passed = start.passed ++ rows ∧ ∀ row ∈ rows, row.windowStart = windowStart) ∧
      next.flusher.InWindow windowStart := by
    obtain ⟨earlier, same, placed⟩ := flushing.passed
    have window := flushing.window
    cases flushes with
    | begun _ begins => cases begins.symm.trans going.1
    | copied phase | swapped phase | emptied phase =>
      rw [phase] at window
      exact ⟨flushing.passed, window⟩
    | @nothing final => exact ⟨flushing.passed, by cases final <;> exact trivial⟩
    | collected phase =>
      refine ⟨flushing.passed, fun row listed => ?_⟩
      obtain ⟨_, _, rfl⟩ := List.mem_map.mp listed
      rwa [phase] at window
    | @passed final rows phase =>
      rw [phase] at window
      refine ⟨⟨earlier ++ rows, by rw [same, List.append_assoc], fun row listed => ?_⟩, by cases final <;> exact trivial⟩
      exact (List.mem_append.mp listed).elim (placed row) (window row)
    | refused => exact absurd rfl going.2
    | reinjected phase | restored phase => exact absurd phase (flushing.accepted _ _)
  exact ⟨flushes.swept flushing.accepted fun _ => flushing.swept, flushes.accepted going.2 flushing.accepted,
    fun tenantId => (flushes.accounted_eq tenantId).trans (flushing.accounted tenantId), kept.1, kept.2⟩

def Meter.flushes : System (Meter Int) FlushLabel := ⟨Meter.step false⟩

/-- The counters hold the units that wait, and the rows those that are stored. -/
def WindowMeter.Agrees (window : WindowMeter) (meter : Meter Int) : Prop := ∀ tenantId,
  (meter.recorder.count tenantId = window.waiting.countP fun unit => unit.tenantId = tenantId) ∧
    ∀ start, usageIn tenantId start meter.passed =
      window.persisted.countP fun stored => stored.1.tenantId = tenantId ∧ stored.2.windowStart = start

/-- A flush, step by step, does to the counters and the rows what `flushAt` does to the units. -/
theorem WindowMeter.Agrees.flush {window : WindowMeter} {windowStart : Nat} {meter finish : Meter Int}
    (agrees : window.Agrees meter) (begun : meter.flusher = .copying false windowStart 0 [])
    (reached : Meter.flushes.Reaches (fun _ label => label.begins = false ∧ label ≠ .upsertUsage false) meter finish)
    (ended : finish.flusher = .waiting) : (window.flushAt windowStart).Agrees finish := by
  have flushing : Flushing windowStart meter finish := by
    refine reached.invariant (Flushing windowStart meter) ⟨?_, ?_, fun _ => rfl, ⟨[], by simp, nofun⟩, ?_⟩
      fun _ _ _ going stepped flushing => flushing.step (Meter.step_flushes stepped) going
    · exact fun _ unread => absurd (by rw [begun]; exact Nat.zero_le _) unread
    · exact begun ▸ nofun
    · exact begun ▸ rfl
  obtain ⟨rows, same, placed⟩ := flushing.passed
  intro tenantId
  obtain ⟨waits, stored⟩ := agrees tenantId
  have empty : finish.recorder.count tenantId = 0 := flushing.swept tenantId (by rw [ended]; exact id)
  have moved : usage tenantId rows = meter.recorder.count tenantId := by
    have sums := flushing.accounted tenantId
    have split : usage tenantId (meter.passed ++ rows) = usage tenantId meter.passed + usage tenantId rows := total_append _ _ _
    simpa [Meter.accounted, begun, ended, empty, same, split, FlusherPhase.held, counted] using sums
  refine ⟨empty, fun start => ?_⟩
  have split : usageIn tenantId start (meter.passed ++ rows) =
    usageIn tenantId start meter.passed + usageIn tenantId start rows := total_append _ _ _
  rw [same, split, stored, usageIn_eq placed, moved, waits]
  by_cases own : windowStart = start <;> simp [flushAt, usageRow, List.countP_map, Function.comp_def, own]

/-- The row covers the time at which the unit was recorded. -/
def Placed (stored : RecordedUnit × UsageRow Int) : Prop :=
  stored.2.windowStart ≤ stored.1.recordedAt ∧ stored.1.recordedAt < stored.2.windowEnd

instance (stored : RecordedUnit × UsageRow Int) : Decidable (Placed stored) := inferInstanceAs (Decidable (_ ∧ _))

def recordedUnits : List MeterEvent → List RecordedUnit
  | [] => []
  | .record now tenantId delta :: rest => List.replicate delta ⟨tenantId, now⟩ ++ recordedUnits rest
  | .tick _ :: rest => recordedUnits rest

def nextTick : List MeterEvent → Option Nat
  | [] => none
  | .record _ _ _ :: rest => nextTick rest
  | .tick now :: _ => some now

/-- Every unit is recorded in the window in which the next tick comes. -/
def SameWindow : List MeterEvent → Prop
  | [] => True
  | .record now _ delta :: rest =>
    (delta ≠ 0 → ∀ tick ∈ nextTick rest, now / windowSize = tick / windowSize) ∧ SameWindow rest
  | .tick _ :: rest => SameWindow rest

theorem placed_usageRow {unit now waiting} :
    Placed (unit, usageRow (now - now % windowSize) waiting unit.tenantId) ↔ unit.recordedAt / windowSize = now / windowSize := by
  simp only [Placed, usageRow, windowSize]
  omega

namespace WindowMeter

theorem foldl_step (events : List MeterEvent) (meter : WindowMeter) :
    ((events.foldl step meter).persisted.map Prod.fst ++ (events.foldl step meter).waiting =
      meter.persisted.map Prod.fst ++ meter.waiting ++ recordedUnits events) ∧
    ((∀ stored ∈ (events.foldl step meter).persisted, Placed stored) ↔ (∀ stored ∈ meter.persisted, Placed stored) ∧
      (∀ unit ∈ meter.waiting, ∀ tick ∈ nextTick events, unit.recordedAt / windowSize = tick / windowSize) ∧
      SameWindow events) := by
  induction events generalizing meter with
  | nil => simp [recordedUnits, nextTick, SameWindow]
  | cons event _ ih =>
    obtain ⟨units, placed⟩ := ih (meter.step event)
    refine ⟨units.trans ?_, placed.trans ?_⟩
    · cases event with
      | record => simp [step, recordedUnits]
      | tick => simp [step, flushAt, recordedUnits, Function.comp_def]
    · cases event with
      | record =>
        simp only [step, List.forall_mem_append, List.forall_mem_replicate, or_iff_not_imp_left, nextTick, SameWindow,
          and_assoc, ne_eq]
      | tick =>
        simp only [step, flushAt, List.forall_mem_append, List.forall_mem_map, placed_usageRow, nextTick, SameWindow]
        simp [and_assoc]

/-- Every unit is stored once or still waits for a tick. The rows cover the times at which their
units were recorded exactly if each unit is recorded in the window in which the next tick comes. -/
theorem placed_iff_sameWindow (events : List MeterEvent) :
    ((run events).persisted.map Prod.fst ++ (run events).waiting = recordedUnits events) ∧
      ((∀ stored ∈ (run events).persisted, Placed stored) ↔ SameWindow events) := by
  unfold run
  simpa using foldl_step events ⟨[], []⟩

/-- A unit of the first minute that is drained by the tick at the start of the second. -/
theorem lateFlush_misplaces : (run [.record 59 "a" 1, .tick 60]).persisted = [(⟨"a", 59⟩, ⟨"a", 60, 120, 1⟩)] ∧
      ¬Placed (⟨"a", 59⟩, ⟨"a", 60, 120, 1⟩) := by
  decide

end WindowMeter

end Blazil.Metering
