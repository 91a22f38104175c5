import Blazil.Foundation.Bytes
import Blazil.Foundation.KeyedTable
import Blazil.Foundation.Totals
import Blazil.Metering.Pricing

/-! The counters of the tenants and the flusher that drains them (`libs/metering/metering.go` and
`flush.go`). Every access to a counter and every lock is one step. Counters are of any type of
numbers and times are in seconds. Units that have been recorded are in a counter, on their way to `UpsertUsage` or
passed to it. What a final flush leaves in the counters is never read again. -/

set_option autoImplicit false

namespace Blazil.Metering

open Foundation

def windowSize : Nat := 60

def shardCount : Nat := 64

def shardFor (tenantId : TenantId) : Nat :=
  ((textBytes tenantId).foldl (fun hash byte => (hash ^^^ byte.toUInt32) * 16777619)
    (2166136261 : UInt32)).toNat &&& (shardCount - 1)

abbrev Recorder (Count : Type) := KeyedTable TenantId Count

variable {Count : Type} [AddCommGroup Count]

namespace Recorder

def count (recorder : Recorder Count) (tenantId : TenantId) : Count := (recorder.get tenantId).getD 0

/-- The first part of `Record`: find the counter or allocate it. -/
def locate (recorder : Recorder Count) (tenantId : TenantId) : Recorder Count :=
  recorder.upsert tenantId fun value => value.getD 0

def add (recorder : Recorder Count) (tenantId : TenantId) (delta : Count) : Recorder Count :=
  recorder.upsert tenantId fun value => value.getD 0 + delta

def reset (recorder : Recorder Count) (tenantId : TenantId) : Recorder Count :=
  recorder.upsert tenantId fun _ => 0

def tenants (recorder : Recorder Count) (shard : Nat) : List TenantId :=
  (recorder.entries.map Prod.fst).filter fun tenantId => shardFor tenantId = shard

end Recorder

structure UsageRow (Count : Type) where
  tenantId : TenantId
  windowStart : Nat
  windowEnd : Nat
  txCount : Count
deriving DecidableEq

def usageRows (windowStart : Nat) (counts : List (TenantId × Count)) : List (UsageRow Count) :=
  counts.map fun entry => ⟨entry.1, windowStart, windowStart + windowSize, entry.2⟩

/-- Where the flusher is. The flush after the end of the context is the final one. -/
inductive FlusherPhase (Count : Type) where
  | waiting
  /-- The snapshot comes to a shard, or to its end. -/
  | copying (final : Bool) (windowStart shard : Nat) (counts : List (TenantId × Count))
  | swapping (final : Bool) (windowStart shard : Nat) (tenants : List TenantId) (counts : List (TenantId × Count))
  | writing (final : Bool) (rows : List (UsageRow Count))
  | reinjecting (final : Bool) (rows : List (UsageRow Count))
  | stopped
deriving DecidableEq

def FlusherPhase.flushed (final : Bool) : FlusherPhase Count := if final then .stopped else .waiting

inductive FlushLabel where
  | tick (now : Nat)
  | done (now : Nat)
  | advance
  /-- The tenants of a shard come in any order. -/
  | swap (tenantId : TenantId)
  | upsertUsage (succeeds : Bool)
  | reinject
deriving DecidableEq

def FlushLabel.begins : FlushLabel → Bool
  | .tick _ | .done _ => true
  | _ => false

/-- The recorder with its flusher, and all rows that `UpsertUsage` has accepted. -/
structure Meter (Count : Type) where
  recorder : Recorder Count
  flusher : FlusherPhase Count
  passed : List (UsageRow Count)

def Meter.new : Meter Count := ⟨KeyedTable.empty, .waiting, []⟩

/-- The context of `Run` may have ended. -/
def Meter.step [DecidableEq Count] (cancelled : Bool) (meter : Meter Count) (label : FlushLabel) : Option (Meter Count) :=
  match meter.flusher, label with
  | .waiting, .tick now =>
    some { meter with flusher := .copying false (now - now % windowSize) 0 [] }
  | .waiting, .done now =>
    if cancelled then
      some { meter with flusher := .copying true (now - now % windowSize) 0 [] }
    else none
  | .copying final windowStart shard counts, .advance =>
    if shard < shardCount then
      some { meter with
        flusher := .swapping final windowStart shard (meter.recorder.tenants shard) counts }
    else if counts = [] then some { meter with flusher := .flushed final }
    else some { meter with flusher := .writing final (usageRows windowStart counts) }
  | .swapping final windowStart shard tenants counts, .swap tenantId =>
    if tenantId ∈ tenants then
      let value := meter.recorder.count tenantId
      some { meter with
        recorder := meter.recorder.reset tenantId
        flusher := .swapping final windowStart shard (tenants.erase tenantId)
          (if value = 0 then counts else counts ++ [(tenantId, value)]) }
    else none
  | .swapping final windowStart shard [] counts, .advance =>
    some { meter with flusher := .copying final windowStart (shard + 1) counts }
  | .writing final rows, .upsertUsage succeeds =>
    if succeeds then
      some { meter with flusher := .flushed final, passed := meter.passed ++ rows }
    else some { meter with flusher := .reinjecting final rows }
  | .reinjecting final (row :: rest), .reinject =>
    some { meter with
      recorder := meter.recorder.add row.tenantId row.txCount
      flusher := .reinjecting final rest }
  | .reinjecting final [], .advance => some { meter with flusher := .flushed final }
  | _, _ => none

theorem shardFor_lt (tenantId : TenantId) : shardFor tenantId < shardCount := by
  exact Nat.lt_succ_of_le Nat.and_le_right

namespace Recorder

variable (recorder : Recorder Count) (tenantId other : TenantId)

theorem count_locate : (recorder.locate tenantId).count other = recorder.count other := by
  unfold count locate
  rw [KeyedTable.get_upsert]
  split
  · next same => rw [same, Option.getD_some]
  · rfl

theorem count_add (delta : Count) : (recorder.add tenantId delta).count other =
    recorder.count other + if tenantId = other then delta else 0 := by
  unfold count add
  rw [KeyedTable.get_upsert]
  split
  · next same => rw [same, Option.getD_some, if_pos rfl]
  · next different => rw [if_neg (Ne.symm different), add_zero]

theorem count_reset : (recorder.reset tenantId).count other =
    recorder.count other - if tenantId = other then recorder.count tenantId else 0 := by
  unfold count reset
  rw [KeyedTable.get_upsert]
  split
  · next same => rw [same, Option.getD_some, if_pos rfl, sub_self]
  · next different => rw [if_neg (Ne.symm different), sub_zero]

variable {recorder tenantId}

theorem count_of_not_mem (absent : tenantId ∉ recorder.tenants (shardFor tenantId)) : recorder.count tenantId = 0 := by
  have unallocated : tenantId ∉ recorder.entries.map Prod.fst := by
    intro allocated
    exact absent (List.mem_filter.mpr ⟨allocated, decide_eq_true rfl⟩)
  rw [count, KeyedTable.get, findValue_eq_none unallocated, Option.getD_none]

end Recorder

def usage (tenantId : TenantId) : List (UsageRow Count) → Count :=
  total fun row => if row.tenantId = tenantId then row.txCount else 0

def counted (tenantId : TenantId) : List (TenantId × Count) → Count :=
  total fun entry => if entry.1 = tenantId then entry.2 else 0

theorem usage_usageRows (tenantId : TenantId) (windowStart : Nat) (counts : List (TenantId × Count)) :
    usage tenantId (usageRows windowStart counts) = counted tenantId counts := by
  induction counts with
  | nil => rfl
  | cons _ _ ih =>
    unfold usage counted usageRows at ih ⊢
    rw [List.map_cons, total_cons, total_cons, ih]

theorem counted_swapped [DecidableEq Count] (tenantId swapped : TenantId) (value : Count) (counts : List (TenantId × Count)) :
    counted tenantId (if value = 0 then counts else counts ++ [(swapped, value)]) =
      counted tenantId counts + if swapped = tenantId then value else 0 := by
  unfold counted
  split
  · next zero => rw [zero, ite_self, add_zero]
  · rw [total_append, total_cons, total_nil, add_zero]

/-- The units of a tenant that have been taken out of its counter and not yet been passed. -/
def FlusherPhase.held (tenantId : TenantId) : FlusherPhase Count → Count
  | .copying _ _ _ counts => counted tenantId counts
  | .swapping _ _ _ _ counts => counted tenantId counts
  | .writing _ rows => usage tenantId rows
  | .reinjecting _ rows => usage tenantId rows
  | _ => 0

theorem FlusherPhase.held_flushed (tenantId : TenantId) (final : Bool) :
    (FlusherPhase.flushed final : FlusherPhase Count).held tenantId = 0 := by
  cases final <;> rfl

/-- The flush has still to come to the counter of a tenant. -/
def FlusherPhase.Ahead (tenantId : TenantId) : FlusherPhase Count → Prop
  | .copying _ _ shard _ => shard ≤ shardFor tenantId
  | .swapping _ _ shard tenants _ => tenantId ∈ tenants ∨ shard < shardFor tenantId
  | _ => False

def FlusherPhase.isFinal : FlusherPhase Count → Bool
  | .copying final _ _ _ | .swapping final _ _ _ _ | .writing final _ | .reinjecting final _ => final
  | .waiting => false
  | .stopped => true

/-- The counter of a tenant will be swapped again. -/
def FlusherPhase.Reads (tenantId : TenantId) (phase : FlusherPhase Count) : Prop :=
  phase.isFinal = true → phase.Ahead tenantId

instance aheadDecidable (tenantId : TenantId) (phase : FlusherPhase Count) : Decidable (phase.Ahead tenantId) :=
  match phase with
  | .copying _ _ shard _ => inferInstanceAs (Decidable (shard ≤ shardFor tenantId))
  | .swapping _ _ shard tenants _ => inferInstanceAs (Decidable (tenantId ∈ tenants ∨ shard < shardFor tenantId))
  | .waiting | .writing _ _ | .reinjecting _ _ | .stopped => .isFalse id

instance readsDecidable (tenantId : TenantId) (phase : FlusherPhase Count) : Decidable (phase.Reads tenantId) :=
  inferInstanceAs (Decidable (_ → _))

omit [AddCommGroup Count] in
theorem FlusherPhase.flushed_ne_reinjecting (ended final : Bool) (rows : List (UsageRow Count)) :
    FlusherPhase.flushed ended ≠ .reinjecting final rows := by
  cases ended <;> exact nofun

namespace Meter

inductive Flushes [DecidableEq Count] (meter : Meter Count) : FlushLabel → Meter Count → Prop where
  | begun {label final windowStart} (idle : meter.flusher = .waiting) (begins : label.begins = true) :
      Flushes meter label { meter with flusher := .copying final windowStart 0 [] }
  | copied {final windowStart shard counts} (copying : meter.flusher = .copying final windowStart shard counts) :
      Flushes meter .advance { meter with
        flusher := .swapping final windowStart shard (meter.recorder.tenants shard) counts }
  | swapped {final windowStart shard tenants counts tenantId}
      (swapping : meter.flusher = .swapping final windowStart shard tenants counts) :
      Flushes meter (.swap tenantId) { meter with
        recorder := meter.recorder.reset tenantId
        flusher := .swapping final windowStart shard (tenants.erase tenantId) (if meter.recorder.count tenantId = 0 then counts
            else counts ++ [(tenantId, meter.recorder.count tenantId)]) }
  | emptied {final windowStart shard counts} (swapping : meter.flusher = .swapping final windowStart shard [] counts) :
      Flushes meter .advance
        { meter with flusher := .copying final windowStart (shard + 1) counts }
  | nothing {final windowStart shard} (copying : meter.flusher = .copying final windowStart shard [])
      (last : ¬ shard < shardCount) :
      Flushes meter .advance { meter with flusher := .flushed final }
  | collected {final windowStart shard counts} (copying : meter.flusher = .copying final windowStart shard counts)
      (last : ¬ shard < shardCount) :
      Flushes meter .advance
        { meter with flusher := .writing final (usageRows windowStart counts) }
  | passed {final rows} (writing : meter.flusher = .writing final rows) :
      Flushes meter (.upsertUsage true)
        { meter with flusher := .flushed final, passed := meter.passed ++ rows }
  | refused {final rows} (writing : meter.flusher = .writing final rows) :
      Flushes meter (.upsertUsage false) { meter with flusher := .reinjecting final rows }
  | reinjected {final row rest} (reinjecting : meter.flusher = .reinjecting final (row :: rest)) :
      Flushes meter .reinject { meter with
        recorder := meter.recorder.add row.tenantId row.txCount
        flusher := .reinjecting final rest }
  | restored {final} (reinjecting : meter.flusher = .reinjecting final []) :
      Flushes meter .advance { meter with flusher := .flushed final }

variable [DecidableEq Count] {cancelled : Bool} {meter next : Meter Count} {label : FlushLabel}

theorem step_flushes (stepped : meter.step cancelled label = some next) : Flushes meter label next := by
  unfold Meter.step at stepped
  split at stepped
  · next idle =>
    cases stepped
    exact .begun idle rfl
  · next idle =>
    split at stepped
    · cases stepped
      exact .begun idle rfl
    · cases stepped
  · next copying =>
    split at stepped
    · cases stepped
      exact .copied copying
    · next last =>
      split at stepped
      · next empty =>
        subst empty
        cases stepped
        exact .nothing copying last
      · cases stepped
        exact .collected copying last
  · next swapping =>
    split at stepped
    · cases stepped
      exact .swapped swapping
    · cases stepped
  · next swapping =>
    cases stepped
    exact .emptied swapping
  · next writing =>
    split at stepped
    · next succeeds =>
      subst succeeds
      cases stepped
      exact .passed writing
    · next fails =>
      rw [Bool.not_eq_true] at fails
      subst fails
      cases stepped
      exact .refused writing
  · next reinjecting =>
    cases stepped
    exact .reinjected reinjecting
  · next reinjecting =>
    cases stepped
    exact .restored reinjecting
  · cases stepped

def accounted (meter : Meter Count) (tenantId : TenantId) : Count :=
  usage tenantId meter.passed + meter.flusher.held tenantId + meter.recorder.count tenantId

theorem Flushes.accounted_eq (flushes : Flushes meter label next) (tenantId : TenantId) :
    next.accounted tenantId = meter.accounted tenantId := by
  unfold accounted
  cases flushes with
  | begun idle => rw [idle]; rfl
  | copied copying => rw [copying]; rfl
  | swapped swapping =>
    simp only [swapping, FlusherPhase.held, counted_swapped, Recorder.count_reset]
    abel
  | emptied swapping => rw [swapping]; rfl
  | nothing copying =>
    rw [copying, FlusherPhase.held_flushed]
    rfl
  | collected copying => simp only [copying, FlusherPhase.held, usage_usageRows]
  | @passed _ rows writing =>
    have split : usage tenantId (meter.passed ++ rows) = usage tenantId meter.passed + usage tenantId rows := total_append _ _ _
    rw [split, FlusherPhase.held_flushed, writing, add_zero]
    rfl
  | refused writing => rw [writing]; rfl
  | @reinjected _ row rest reinjecting =>
    have first : usage tenantId (row :: rest) = (if row.tenantId = tenantId then row.txCount else 0) + usage tenantId rest := rfl
    simp only [reinjecting, FlusherPhase.held, first, Recorder.count_add]
    abel
  | restored reinjecting =>
    rw [reinjecting, FlusherPhase.held_flushed]
    rfl

def Swept (meter : Meter Count) : Prop :=
  ∀ tenantId, ¬meter.flusher.Ahead tenantId → meter.recorder.count tenantId = 0

theorem Flushes.swept (flushes : Flushes meter label next) (accepted : ∀ final rows, meter.flusher ≠ .reinjecting final rows)
    (swept : label.begins = false → meter.Swept) : next.Swept := by
  intro tenantId unread
  cases flushes with
  | begun => exact absurd (Nat.zero_le _) unread
  | @copied _ _ shard _ copying =>
    by_cases earlier : shardFor tenantId < shard
    · refine swept rfl tenantId ?_
      rw [copying]
      exact Nat.not_le.mpr earlier
    · have here := Nat.le_antisymm (Nat.not_lt.mp earlier) (Nat.not_lt.mp (mt .inr unread))
      exact Recorder.count_of_not_mem (here ▸ mt .inl unread)
  | swapped swapping =>
    rw [Recorder.count_reset]
    split
    · next same => rw [same, sub_self]
    · next different =>
      rw [sub_zero]
      refine swept rfl tenantId ?_
      rw [swapping]
      exact fun ahead => unread (ahead.imp_left (List.mem_erase_of_ne (Ne.symm different)).mpr)
  | emptied swapping =>
    refine swept rfl tenantId ?_
    rw [swapping]
    rintro (member | later)
    · cases member
    · exact unread later
  | nothing copying last | collected copying last =>
    refine swept rfl tenantId ?_
    rw [copying]
    exact fun reads => last (Nat.lt_of_le_of_lt reads (shardFor_lt tenantId))
  | passed writing | refused writing => exact swept rfl tenantId (by rw [writing]; exact id)
  | reinjected reinjecting | restored reinjecting => exact absurd reinjecting (accepted _ _)

theorem Flushes.isFinal_eq (flushes : Flushes meter label next) (going : label.begins = false) :
    next.flusher.isFinal = meter.flusher.isFinal := by
  have flushed : ∀ final, (FlusherPhase.flushed final : FlusherPhase Count).isFinal = final := by
    rintro (_ | _) <;> rfl
  cases flushes with
  | begun _ begins => cases begins.symm.trans going
  | nothing phase | passed phase | restored phase => rw [phase]; exact flushed _
  | copied phase | swapped phase | emptied phase | collected phase | refused phase | reinjected phase => rw [phase]; rfl

theorem Flushes.accepted (flushes : Flushes meter label next) (succeeds : label ≠ .upsertUsage false)
    (accepted : ∀ final rows, meter.flusher ≠ .reinjecting final rows) :
    ∀ final rows, next.flusher ≠ .reinjecting final rows := by
  cases flushes with
  | nothing | passed => exact FlusherPhase.flushed_ne_reinjecting _
  | refused => exact absurd rfl succeeds
  | reinjected reinjecting | restored reinjecting => exact absurd reinjecting (accepted _ _)
  | _ => exact nofun

/-- No counter holds a unit that will not be swapped out of it. -/
structure Drained (meter : Meter Count) : Prop where
  unread : ∀ tenantId, ¬ meter.flusher.Reads tenantId → meter.recorder.count tenantId = 0
  accepted : ∀ final rows, meter.flusher ≠ .reinjecting final rows

theorem Flushes.drained (flushes : Flushes meter label next) (drained : Drained meter)
    (succeeds : label ≠ .upsertUsage false) : Drained next := by
  refine ⟨fun tenantId unread => ?_, flushes.accepted succeeds drained.accepted⟩
  obtain ⟨final, passed⟩ := Classical.not_imp.mp unread
  refine flushes.swept drained.accepted (fun going other unswept => ?_) tenantId passed
  have finalBefore := (flushes.isFinal_eq going).symm.trans final
  exact drained.unread other (Classical.not_imp.mpr ⟨finalBefore, unswept⟩)

omit [DecidableEq Count]

theorem Drained.accounted_of_stopped (drained : Drained meter) (stopped : meter.flusher = .stopped)
    (tenantId : TenantId) : meter.accounted tenantId = usage tenantId meter.passed := by
  have empty := drained.unread tenantId (by rw [stopped]; exact fun reads => reads rfl)
  have held : meter.flusher.held tenantId = 0 := by rw [stopped]; rfl
  rw [accounted, held, empty, add_zero, add_zero]

theorem new_drained : Drained (Meter.new : Meter Count) where
  unread := fun _ unread => absurd nofun unread
  accepted := nofun

end Meter

end Blazil.Metering
