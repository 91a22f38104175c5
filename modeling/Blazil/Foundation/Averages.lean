import Mathlib.Algebra.Order.Field.Basic

/-! Values that lie between the lowest and the highest of some others, and weighted averages
as a means to stay there. -/

set_option autoImplicit false

namespace Foundation

section Order

variable {Value : Type} [LinearOrder Value] {values : List Value} {value new average : Value}

def Between (values : List Value) (value : Value) : Prop :=
  ∃ low ∈ values, ∃ high ∈ values, low ≤ value ∧ value ≤ high

theorem between_last (values : List Value) (value : Value) : Between (values ++ [value]) value :=
  have member : value ∈ values ++ [value] := List.mem_append_right _ (List.mem_singleton.mpr rfl)
  ⟨value, member, value, member, le_refl value, le_refl value⟩

theorem between_singleton {only : Value} : Between [only] value ↔ value = only := by
  constructor
  · rintro ⟨_, isLow, _, isHigh, above, below⟩
    rw [List.mem_singleton.mp isLow] at above
    rw [List.mem_singleton.mp isHigh] at below
    exact le_antisymm below above
  · rintro rfl
    exact between_last [] value

theorem Between.append (between : Between values value) (above : min value new ≤ average)
    (below : average ≤ max value new) : Between (values ++ [new]) average := by
  obtain ⟨low, isLow, high, isHigh, aboveLow, belowHigh⟩ := between
  have member : ∀ other, other ∈ values ∨ other = new → other ∈ values ++ [new] := by
    simp
  refine ⟨min low new, member _ ?_, max high new, member _ ?_, ?_, ?_⟩
  · rcases min_choice low new with same | same
    · exact .inl (same.symm ▸ isLow)
    · exact .inr same
  · rcases max_choice high new with same | same
    · exact .inl (same.symm ▸ isHigh)
    · exact .inr same
  · exact (min_le_min_right new aboveLow).trans above
  · exact below.trans (max_le_max_right new belowHigh)

end Order

theorem ediv_average {old oldWeight new newWeight : ℤ} (nonneg : 0 ≤ oldWeight) (positive : 0 < newWeight) :
    min old new ≤ (old * oldWeight + new * newWeight) / (oldWeight + newWeight) ∧
      (old * oldWeight + new * newWeight) / (oldWeight + newWeight) ≤ max old new := by
  have both : 0 < oldWeight + newWeight := by omega
  constructor
  · rw [Int.le_ediv_iff_mul_le both, mul_add]
    exact add_le_add (mul_le_mul_of_nonneg_right (min_le_left _ _) nonneg)
      (mul_le_mul_of_nonneg_right (min_le_right _ _) positive.le)
  · apply Int.ediv_le_of_le_mul both
    rw [mul_add]
    exact add_le_add (mul_le_mul_of_nonneg_right (le_max_left _ _) nonneg)
      (mul_le_mul_of_nonneg_right (le_max_right _ _) positive.le)

theorem div_average {Value : Type} [Field Value] [LinearOrder Value] [IsStrictOrderedRing Value]
    {old oldWeight new newWeight : Value} (sameSide : 0 ≤ oldWeight ∧ 0 ≤ newWeight ∨ oldWeight ≤ 0 ∧ newWeight ≤ 0)
    (moved : oldWeight + newWeight ≠ 0) :
    min old new ≤ (oldWeight * old + newWeight * new) / (oldWeight + newWeight) ∧
      (oldWeight * old + newWeight * new) / (oldWeight + newWeight) ≤ max old new := by
  rcases sameSide with ⟨oldSide, newSide⟩ | ⟨oldSide, newSide⟩
  · have both : 0 < oldWeight + newWeight :=
      lt_of_le_of_ne (add_nonneg oldSide newSide) (Ne.symm moved)
    rw [le_div_iff₀' both, div_le_iff₀' both, add_mul, add_mul]
    exact ⟨add_le_add (mul_le_mul_of_nonneg_left (min_le_left _ _) oldSide)
        (mul_le_mul_of_nonneg_left (min_le_right _ _) newSide),
      add_le_add (mul_le_mul_of_nonneg_left (le_max_left _ _) oldSide) (mul_le_mul_of_nonneg_left (le_max_right _ _) newSide)⟩
  · have both : oldWeight + newWeight < 0 :=
      lt_of_le_of_ne (add_nonpos oldSide newSide) moved
    rw [le_div_iff_of_neg' both, div_le_iff_of_neg' both, add_mul, add_mul]
    exact ⟨add_le_add (mul_le_mul_of_nonpos_left (min_le_left _ _) oldSide)
        (mul_le_mul_of_nonpos_left (min_le_right _ _) newSide),
      add_le_add (mul_le_mul_of_nonpos_left (le_max_left _ _) oldSide) (mul_le_mul_of_nonpos_left (le_max_right _ _) newSide)⟩

end Foundation
