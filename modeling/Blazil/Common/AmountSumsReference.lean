import Blazil.Common.Amount
import Blazil.Common.CratesReference

/-! Reference sums of decimals, used where a concrete run has to be evaluated. A sum that
does not fit loses decimal places. -/

set_option autoImplicit false

namespace Blazil.Common.Reference

open Foundation

def aligned (decimal : Decimal) (scale : Nat) : Int :=
  decimal.signed * 10 ^ (scale - decimal.scale)

def ofSum (sum : Int) (scale : Nat) : Option Decimal :=
  keep (decide (sum < 0)) sum.natAbs (10 ^ scale) scale

def add (left right : Decimal) : Option Decimal :=
  let scale := max left.scale right.scale
  ofSum (aligned left scale + aligned right scale) scale

def sub (left right : Decimal) : Option Decimal :=
  let scale := max left.scale right.scale
  ofSum (aligned left scale - aligned right scale) scale

def displayDecimal (decimal : Decimal) : String :=
  let sign := if decimal.negative then "-" else ""
  let whole := toString (decimal.mantissa / 10 ^ decimal.scale)
  if decimal.scale = 0 then sign ++ whole
  else
    let fraction := toString (decimal.mantissa % 10 ^ decimal.scale)
    let zeros := String.ofList (List.replicate (decimal.scale - fraction.length) '0')
    sign ++ whole ++ "." ++ zeros ++ fraction

variable {decimal left right : Decimal} {scale : Nat}

theorem aligned_value (wider : decimal.scale ≤ scale) : (aligned decimal scale : ℚ) / 10 ^ scale = decimal.value := by
  have power : (10 : ℚ) ^ scale = 10 ^ decimal.scale * 10 ^ (scale - decimal.scale) := by
    rw [← pow_add]
    congr 1
    omega
  unfold aligned Decimal.value
  rw [power]
  push_cast
  field_simp

theorem fraction_sum (sum : Int) (scale : Nat) : fraction (decide (sum < 0)) sum.natAbs (10 ^ scale) = sum / 10 ^ scale := by
  have signed : (if decide (sum < 0) then -(sum.natAbs : ℚ) else sum.natAbs) = sum := by
    rw [← Int.cast_natCast, Int.natCast_natAbs]
    by_cases negative : sum < 0
    · simp [negative, abs_of_neg negative]
    · simp [negative, abs_of_nonneg (not_lt.mp negative)]
  rw [fraction, signed]
  push_cast
  rfl

theorem value_add (left right : Decimal) : left.value + right.value =
    ((aligned left (max left.scale right.scale) + aligned right (max left.scale right.scale) : Int) : ℚ) /
      10 ^ max left.scale right.scale := by
  push_cast
  rw [add_div, aligned_value (le_max_left _ _), aligned_value (le_max_right _ _)]

theorem add_exact (representable : Decimal.Representable (left.value + right.value)) :
    ∃ sum, add left right = some sum ∧ sum.value = left.value + right.value := by
  rw [value_add, ← fraction_sum] at representable ⊢
  exact keep_representable representable

theorem largest_lt_limit : (2 : ℚ) ^ 96 - 1 < 2 ^ 96 - 1 / 2 := by norm_num

theorem limit_le : (2 : ℚ) ^ 96 - 1 / 2 ≤ 2 ^ 96 := by norm_num

theorem add_none_iff : add left right = none ↔ 2 ^ 96 - 1 / 2 ≤ |left.value + right.value| := by
  refine (keep_none_iff (by positivity)).trans ?_
  rw [value_add, ← fraction_sum, abs_fraction, le_div_iff₀ (by positivity), ← @Nat.cast_le ℚ]
  push_cast
  constructor <;> intro bound <;> linarith

theorem ofSum_rounded {sum : Int} (made : ofSum sum scale = some decimal) : decimal.scale ≤ scale ∧
      |decimal.value - sum / 10 ^ scale| < 1 / 10 ^ decimal.scale := by
  rw [← fraction_sum]
  exact ⟨(keep_some made).2.1, keep_close (by positivity) made⟩

theorem add_rounded {sum : Decimal} (added : add left right = some sum) : sum.scale ≤ max left.scale right.scale ∧
      |sum.value - (left.value + right.value)| < 1 / 10 ^ sum.scale := by
  rw [value_add]
  exact ofSum_rounded added

theorem sub_rounded {difference : Decimal} (subtracted : sub left right = some difference) :
    difference.scale ≤ max left.scale right.scale ∧
      |difference.value - (left.value - right.value)| < 1 / 10 ^ difference.scale := by
  have rounded := ofSum_rounded subtracted
  push_cast at rounded
  rwa [sub_div, aligned_value (le_max_left _ _), aligned_value (le_max_right _ _)] at rounded

theorem toList_sign (negative : Bool) : (if negative then "-" else "").toList = if negative then ['-'] else [] := by
  cases negative <;> rfl

theorem toList_displayDecimal (places : decimal.scale ≠ 0) :
    (displayDecimal decimal).toList = (if decimal.negative then ['-'] else []) ++
      (Nat.toDigits 10 (decimal.mantissa / 10 ^ decimal.scale) ++
        '.' :: Numeral.padded decimal.scale (decimal.mantissa % 10 ^ decimal.scale)) := by
  have width : (toString (decimal.mantissa % 10 ^ decimal.scale)).length =
      (Nat.toDigits 10 (decimal.mantissa % 10 ^ decimal.scale)).length := by
    rw [← String.length_toList, Numeral.toList_toString]
  unfold displayDecimal Numeral.padded
  simp only [places, if_false, width, String.toList_append, toList_sign, Numeral.toList_toString,
    String.toList_ofList, List.append_assoc]
  rfl

theorem parse_displayDecimal (decimal : Decimal) : Numeral.parse (displayDecimal decimal) =
    some ⟨decimal.negative, decimal.mantissa, decimal.scale⟩ := by
  unfold Numeral.parse
  by_cases places : decimal.scale = 0
  · have text : (displayDecimal decimal).toList =
        (if decimal.negative then ['-'] else []) ++ Nat.toDigits 10 decimal.mantissa := by
      unfold displayDecimal
      simp only [places, if_true, pow_zero, Nat.div_one, String.toList_append, toList_sign, Numeral.toList_toString]
    rw [text, Numeral.parseChars_whole, places]
  · have width := Numeral.length_padded (Nat.pos_of_ne_zero places)
      (Nat.mod_lt decimal.mantissa (show 0 < 10 ^ decimal.scale by positivity))
    rw [toList_displayDecimal places, Numeral.parseChars_point _ _ fun _ member => Numeral.isDigit_of_mem_padded member,
      width, Numeral.ofDigitChars_padded, Nat.div_add_mod]

theorem value_numeral (decimal : Decimal) :
    (⟨decimal.negative, decimal.mantissa, decimal.scale⟩ : Numeral).value = decimal.value := by
  rw [value_eq_fraction]
  unfold fraction Numeral.value Numeral.magnitude
  split <;> simp [neg_div]

end Blazil.Common.Reference

namespace Blazil.Common

@[reducible] def referenceSums : DecimalSums where
  checkedAdd := Reference.add
  checkedSub := Reference.sub
  display := Reference.displayDecimal
  add_exact _ _ representable := Reference.add_exact representable

@[reducible] def referenceOverflow : @DecimalOverflow referenceSums :=
  @DecimalOverflow.mk referenceSums (2 ^ 96 - 1 / 2) Reference.largest_lt_limit Reference.limit_le
    fun _ _ => Reference.add_none_iff

theorem referenceSumLaws : @DecimalSumLaws referenceSums :=
  @DecimalSumLaws.mk referenceSums (fun _ _ _ => Reference.add_rounded) (fun _ _ _ => Reference.sub_rounded)
    (fun decimal => ⟨_, Reference.parse_displayDecimal decimal, rfl, rfl, Reference.value_numeral decimal⟩)

end Blazil.Common
