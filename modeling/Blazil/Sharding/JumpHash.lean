import Blazil.Foundation.Loop
import Mathlib.Tactic.Linarith

/-! Jump consistent hashing (`libs/sharding/hasher.go`). The step in floating point is a
parameter: it is given the bucket and the key, and says where the next jump goes. -/

set_option autoImplicit false

namespace Blazil.Sharding

open Foundation

structure JumpState where
  b : Int
  j : Int
  key : UInt64
deriving DecidableEq

variable (jump : Int → UInt64 → Int) (numBuckets : Int)

def JumpState.turn (state : JumpState) : Option JumpState :=
  if state.j < numBuckets then
    let key := state.key * 2862933555777941757 + 1
    some ⟨state.j, jump state.j key, key⟩
  else none

def jumpHash (turns : Nat) (key : UInt64) : Option Int :=
  (runLoop (JumpState.turn jump numBuckets) turns ⟨-1, 0, key⟩).map JumpState.b

def shardOf (turns : Nat) (accountId : UInt64) (numShards : Int) : Option Int :=
  jumpHash jump numShards turns accountId

variable {jump} {numBuckets} {state next : JumpState}

theorem JumpState.turn_eq_some (turned : state.turn jump numBuckets = some next) :
    state.j < numBuckets ∧ next.b = state.j ∧ next.j = jump next.b next.key := by
  unfold turn at turned
  split at turned
  · next inside =>
    cases turned
    exact ⟨inside, rfl, rfl⟩
  · cases turned

theorem JumpState.turn_mono {more : Int} (grown : numBuckets ≤ more)
    (turned : state.turn jump numBuckets = some next) : state.turn jump more = some next := by
  have inside := (turn_eq_some turned).1
  rw [turn, if_pos inside] at turned
  rw [turn, if_pos (inside.trans_le grown), turned]

/-- What a run of the loop ends with: the bucket it started from if the jump was already too
far, and otherwise one that is no nearer than that jump. -/
structure JumpState.Lands (numBuckets : Int) (state final : JumpState) : Prop where
  far : numBuckets ≤ final.j
  stays : numBuckets ≤ state.j → final = state
  jumps : state.j < numBuckets → state.j ≤ final.b ∧ final.b < numBuckets

theorem JumpState.lands (advances : ∀ b, 0 ≤ b → ∀ key, b + 1 ≤ jump b key)
    {turns : Nat} (started : 0 ≤ state.j) (enough : (numBuckets - state.j).toNat < turns) :
    ∃ final, runLoop (JumpState.turn jump numBuckets) turns state = some final ∧ state.Lands numBuckets final := by
  apply @runLoop_refines JumpState _ _ state JumpState (fun described state => described = state ∧ 0 ≤ state.j)
    (fun described => (numBuckets - described.j).toNat) (fun _ => Lands numBuckets) ?_ ?_ state
    ⟨rfl, started⟩ enough
  · rintro state _ ⟨rfl, _⟩ left
    have far : numBuckets ≤ state.j := by
      by_contra inside
      simp [turn, not_le.mp inside] at left
    exact ⟨far, fun _ => rfl, fun inside => absurd inside (not_lt.mpr far)⟩
  · rintro _ _ next ⟨rfl, started⟩ turned
    obtain ⟨_, bucket, _⟩ := turn_eq_some turned
    have forward := advances next.b (bucket ▸ started) next.key
    refine ⟨next, ⟨rfl, by omega⟩, by omega, fun final lands => ⟨lands.far, by omega, fun _ => ?_⟩⟩
    rcases lt_or_ge next.j numBuckets with again | last
    · obtain ⟨_, _⟩ := lands.jumps again
      omega
    · rw [lands.stays last]
      omega

/-- With enough turns the loop is left, and the result is one of the buckets. With more buckets,
the result is the same one or one of the new ones. -/
theorem jumpHash_consistent (advances : ∀ b, 0 ≤ b → ∀ key, b + 1 ≤ jump b key) (key : UInt64)
    {n m : Int} (positive : 1 ≤ n) (more : n ≤ m) :
    ∃ bucket grown, (∀ turns : Nat, n < turns → jumpHash jump n turns key = some bucket) ∧
      (∀ turns : Nat, m < turns → jumpHash jump m turns key = some grown) ∧
      (0 ≤ bucket ∧ bucket < n) ∧ (0 ≤ grown ∧ grown < m) ∧ (grown = bucket ∨ n ≤ grown) := by
  let start : JumpState := ⟨-1, 0, key⟩
  obtain ⟨final, left, lands⟩ := @JumpState.lands jump n start advances (n.toNat + 1) (Int.le_refl 0) (by simp [start])
  obtain ⟨last, leftLast, landsLast⟩ := @JumpState.lands jump m start advances (m.toNat + 1) (Int.le_refl 0) (by simp [start])
  have within := lands.jumps (by simp only [start]; omega)
  have withinLast := landsLast.jumps (by simp only [start]; omega)
  refine ⟨final.b, last.b, fun turns enough => ?_, fun turns enough => ?_, within, withinLast, ?_⟩
  · exact congrArg (Option.map JumpState.b) (runLoop_mono left (by omega))
  · exact congrArg (Option.map JumpState.b) (runLoop_mono leftLast (by omega))
  · -- The longer loop goes on from where the shorter one is left.
    obtain ⟨rest, continued⟩ := runLoop_continues (fun state next => JumpState.turn_mono more)
      left leftLast
    obtain ⟨_, reached, onwards⟩ := @JumpState.lands jump m final advances
      (max rest ((m - final.j).toNat + 1)) (by have := lands.far; omega) (by omega)
    rw [runLoop_mono continued (le_max_left _ _)] at reached
    cases reached
    rcases lt_or_ge final.j m with further | done
    · exact .inr (le_trans lands.far (onwards.jumps further).1)
    · exact .inl (congrArg JumpState.b (onwards.stays done))

def exactJump (b : Int) (key : UInt64) : Int := (b + 1) * 2 ^ 31 / ((key.toNat / 2 ^ 33 : Nat) + 1)

theorem exactJump_advances (b : Int) (started : 0 ≤ b) (key : UInt64) : b + 1 ≤ exactJump b key := by
  have small : key.toNat / 2 ^ 33 + 1 ≤ 2 ^ 31 := by
    have := key.toNat_lt
    omega
  apply (Int.le_ediv_iff_mul_le (by omega)).mpr
  exact Int.mul_le_mul_of_nonneg_left (by exact_mod_cast small) (by omega)

/-- From three buckets to five, for some key. -/
theorem jumpHash_exact : ∃ bucket grown, (∀ turns : Nat, 3 < (turns : Int) → jumpHash exactJump 3 turns 42 = some bucket) ∧
      (∀ turns : Nat, 5 < (turns : Int) → jumpHash exactJump 5 turns 42 = some grown) ∧
      (0 ≤ bucket ∧ bucket < 3) ∧ (0 ≤ grown ∧ grown < 5) ∧ (grown = bucket ∨ 3 ≤ grown) :=
  jumpHash_consistent exactJump_advances 42 (by decide) (by decide)

end Blazil.Sharding
