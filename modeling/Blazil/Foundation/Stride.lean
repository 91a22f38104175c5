import Mathlib.Data.List.Nodup
import Mathlib.Tactic.Linarith

/-! Finite arithmetic progressions of integers, as the positions that one of several
consumers visits when each skips over the others. -/

set_option autoImplicit false

namespace Foundation

/-- The first `count` positions after `start`, a distance of `step` apart. -/
def stride (start : Int) (step count : Nat) : List Int :=
  (List.range count).map fun index : Nat => start + step * ((index : Int) + 1)

theorem stride_succ (start : Int) (step count : Nat) :
    stride start step (count + 1) = stride start step count ++ [start + step * (count + 1)] := by
  simp [stride, List.range_succ]

variable {position start : Int} {step count : Nat}

theorem stride_upTo (nonneg : 0 ≤ position) :
    stride (-1) 1 (position + 1).toNat = stride (-1) 1 position.toNat ++ [position] := by
  have next : (position + 1).toNat = position.toNat + 1 := by omega
  have last : (-1 : Int) + (1 : Nat) * ((position.toNat : Int) + 1) = position := by omega
  rw [next, stride_succ, last]

theorem mem_stride : position ∈ stride start step count ↔ ∃ index < count, position = start + step * (index + 1) := by
  simp [stride, eq_comm]

theorem stride_sorted (positive : 0 < step) (count : Nat) : (stride start step count).Pairwise (· < ·) := by
  unfold stride
  rw [List.pairwise_map]
  refine List.pairwise_lt_range.imp ?_
  intro first second less
  have scaled : (step : Int) * (first + 1) < step * (second + 1) :=
    mul_lt_mul_of_pos_left (by omega) (by omega)
  omega

theorem count_stride (positive : 0 < step) {index : Nat} (inside : index < count) :
    (stride start step count).count (start + step * (index + 1)) = 1 := by
  have distinct : (stride start step count).Nodup :=
    (stride_sorted positive count).imp fun less => less.ne
  exact List.count_eq_one_of_mem distinct (mem_stride.mpr ⟨index, inside, rfl⟩)

/-- Progressions that start less than one step apart and meet are the same. -/
theorem stride_start_unique {first second : Int} {left right : Nat} (close : first < second + step)
    (close' : second < first + step) (meet : first + step * ((left : Int) + 1) = second + step * ((right : Int) + 1)) :
    first = second := by
  rcases Nat.lt_trichotomy left right with _ | rfl | _
  · have scaled : (step : Int) * ((left : Int) + 2) ≤ step * ((right : Int) + 1) :=
      mul_le_mul_of_nonneg_left (by omega) (by omega)
    linarith
  · omega
  · have scaled : (step : Int) * ((right : Int) + 2) ≤ step * ((left : Int) + 1) :=
      mul_le_mul_of_nonneg_left (by omega) (by omega)
    linarith

end Foundation
