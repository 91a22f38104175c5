import Blazil.Foundation.Numeral
import Mathlib.Data.Rat.Cast.Order
import Mathlib.Tactic.FieldSimp
import Mathlib.Tactic.Linarith
import Mathlib.Tactic.Ring

/-! The third-party crates behind the engine's parsing and decimal arithmetic. The numbers of
`rust_decimal` have their documented form: a sign, a 96-bit mantissa and a scale of at most 28.
Operations on them that never round are given here. All else is a parameter of the model; the
fields that state laws are what the engine relies on from the documentation. -/

set_option autoImplicit false

namespace Blazil.Common

structure Decimal where
  negative : Bool
  mantissa : Nat
  scale : Nat
  mantissa_lt : mantissa < 2 ^ 96
  scale_le : scale ≤ 28
deriving DecidableEq

namespace Decimal

def zero : Decimal := ⟨false, 0, 0, by decide, by decide⟩

/-- `Decimal::MAX / Decimal::TWO`. The exact quotient ends in one half and needs a
97th bit, so the division rounds it; no decimal lies between the two. -/
def maxHalf : Decimal := ⟨false, 2 ^ 95, 0, by decide, by decide⟩

def signed (decimal : Decimal) : Int :=
  if decimal.negative then -decimal.mantissa else decimal.mantissa

def value (decimal : Decimal) : ℚ := decimal.signed / 10 ^ decimal.scale

def blt (left right : Decimal) : Bool :=
  left.signed * 10 ^ right.scale < right.signed * 10 ^ left.scale

def isZero (decimal : Decimal) : Bool := decimal.mantissa == 0

def fract (decimal : Decimal) : Decimal :=
  ⟨decimal.negative, decimal.mantissa % 10 ^ decimal.scale, decimal.scale,
    Nat.lt_of_le_of_lt (Nat.mod_le _ _) decimal.mantissa_lt, decimal.scale_le⟩

/-- Truncation to `u128`. A mantissa has 96 bits, so only a sign can be refused. -/
def toU128 (decimal : Decimal) : Option Nat :=
  let whole := decimal.mantissa / 10 ^ decimal.scale
  if decimal.negative && whole != 0 then none else some whole

def ofUInt64 (number : UInt64) : Decimal :=
  ⟨false, number.toNat, 0, Nat.lt_trans number.toNat_lt (by decide), by decide⟩

def Representable (exact : ℚ) : Prop := ∃ decimal : Decimal, decimal.value = exact

theorem blt_iff {left right : Decimal} : left.blt right = true ↔ left.value < right.value := by
  have leftPos : (0 : ℚ) < 10 ^ left.scale := by positivity
  have rightPos : (0 : ℚ) < 10 ^ right.scale := by positivity
  rw [blt, decide_eq_true_iff, value, value, div_lt_div_iff₀ leftPos rightPos]
  exact_mod_cast Iff.rfl

theorem abs_value (decimal : Decimal) :
    |decimal.value| = decimal.mantissa / 10 ^ decimal.scale := by
  unfold value signed
  split <;> simp [abs_div]

@[simp] theorem value_ofUInt64 (number : UInt64) : (ofUInt64 number).value = number.toNat := by
  simp [value, signed, ofUInt64]

@[simp] theorem value_zero : zero.value = 0 := by simp [value, signed, zero]

theorem value_maxHalf : maxHalf.value = 2 ^ 95 := by
  norm_num [value, signed, maxHalf]

variable {decimal : Decimal} {whole : Nat}

theorem value_eq_zero_iff : decimal.value = 0 ↔ decimal.isZero = true := by
  unfold value signed isZero
  split <;> simp

theorem toU128_exact (integral : decimal.fract.isZero = true)
    (nonneg : 0 ≤ decimal.value) (truncated : decimal.toU128 = some whole) : decimal.value = whole := by
  have divides : decimal.mantissa % 10 ^ decimal.scale = 0 := by
    simpa [fract, isZero] using integral
  have split : decimal.mantissa = 10 ^ decimal.scale * (decimal.mantissa / 10 ^ decimal.scale) :=
    (Nat.mul_div_cancel' (Nat.dvd_of_mod_eq_zero divides)).symm
  have magnitude : |decimal.value| = (decimal.mantissa / 10 ^ decimal.scale : Nat) := by
    rw [abs_value]
    have power : (10 : ℚ) ^ decimal.scale ≠ 0 := by positivity
    rw [div_eq_iff power]
    conv_lhs => rw [split]
    push_cast
    ring
  rw [abs_of_nonneg nonneg] at magnitude
  unfold toU128 at truncated
  dsimp only at truncated
  split at truncated
  · cases truncated
  · cases truncated
    exact magnitude

theorem toU128_of_value (same : decimal.value = whole) :
    decimal.fract.isZero = true ∧ decimal.toU128 = some whole := by
  have magnitude := decimal.abs_value
  rw [same, Nat.abs_cast] at magnitude
  have power : (10 : ℚ) ^ decimal.scale ≠ 0 := by positivity
  rw [eq_div_iff power] at magnitude
  have product : whole * 10 ^ decimal.scale = decimal.mantissa := by exact_mod_cast magnitude
  have quotient : decimal.mantissa / 10 ^ decimal.scale = whole := by
    rw [← product]
    exact Nat.mul_div_cancel _ (by positivity)
  constructor
  · simp [fract, isZero, ← product]
  · unfold toU128
    rw [quotient]
    by_cases sign : decimal.negative = true
    · have zero : whole = 0 := by
        have signedValue : decimal.value = -(decimal.mantissa / 10 ^ decimal.scale : ℚ) := by
          simp [value, signed, sign, neg_div]
        have nonneg : (0 : ℚ) ≤ decimal.mantissa / 10 ^ decimal.scale := by positivity
        have nonpos : (whole : ℚ) ≤ 0 := by linarith
        exact_mod_cast le_antisymm nonpos (Nat.cast_nonneg whole)
      simp [zero]
    · simp [sign]

end Decimal

open Foundation

abbrev Uuid := BitVec 128

/-- Calls into `uuid`, `iso_currency` and `rust_decimal`. -/
class ExternalCrates where
  uuidParse : String → Option Uuid
  /-- The hyphenated text of a UUID. -/
  uuidToString : Uuid → String
  /-- Which codes `iso_currency::Currency::from_str` recognises. -/
  currencyKnown : String → Bool
  decimalFromStr : String → Option Decimal
  checkedMul : Decimal → Decimal → Option Decimal
  checkedDiv : Decimal → Decimal → Option Decimal
  /-- The fiat currencies of the ledger table are ISO 4217 codes. -/
  fiat_known : ∀ code ∈ ["USD", "EUR", "GBP", "JPY", "VND"], currencyKnown code = true
  /-- Crypto currencies are not ISO 4217 codes. -/
  crypto_unknown : ∀ code ∈ ["BTC", "ETH"], currencyKnown code = false
  /-- A numeral that fits the representation is read exactly, with its written scale. -/
  fromStr_exact : ∀ text numeral, Numeral.parse text = some numeral → numeral.digits < 2 ^ 96 → numeral.scale ≤ 28 →
    ∃ decimal, decimalFromStr text = some decimal ∧ decimal.value = numeral.value ∧ decimal.scale = numeral.scale
  /-- Products within the representation are exact. -/
  mul_exact : ∀ left right, Decimal.Representable (left.value * right.value) →
    ∃ product, checkedMul left right = some product ∧ product.value = left.value * right.value
  /-- Products beyond 96 bits overflow. -/
  mul_overflow : ∀ left right, 2 ^ 96 ≤ |left.value * right.value| → checkedMul left right = none
  /-- Quotients within the representation are exact, and those of whole numbers have no superfluous decimals. -/
  div_exact : ∀ left right, right.value ≠ 0 → Decimal.Representable (left.value / right.value) →
    ∃ quotient, checkedDiv left right = some quotient ∧ quotient.value = left.value / right.value ∧
      (left.scale = 0 → ∀ exact : Decimal, exact.value = left.value / right.value → quotient.scale ≤ exact.scale)

/-- A numeral beyond 96 bits is refused by `Decimal::from_str`. -/
class DecimalRange [ExternalCrates] : Prop where
  fromStr_overflow : ∀ text numeral, Numeral.parse text = some numeral →
    2 ^ 96 ≤ numeral.magnitude → ExternalCrates.decimalFromStr text = none

def Decimal.Holds (numeral : Numeral) : Prop := numeral.digits < 2 ^ 96 ∧ numeral.scale ≤ 28

/-- What `Decimal::from_str` does with other texts than numerals that fit. -/
class DecimalTexts [ExternalCrates] : Prop where
  /-- A numeral that does not fit keeps every digit that does and is rounded in the
  last of them, or is refused. -/
  fromStr_rounded : ∀ text numeral decimal, Numeral.parse text = some numeral →
    ¬Decimal.Holds numeral → ExternalCrates.decimalFromStr text = some decimal →
    (decimal.negative = numeral.negative ∨ decimal.mantissa = 0) ∧ (decimal.scale = 28 ∨ 2 ^ 96 ≤ 10 * decimal.mantissa + 9) ∧
      ((decimal.mantissa : ℚ) - 1) / 10 ^ decimal.scale ≤ numeral.magnitude
  /-- Scientific notation is read exactly, where it is read, if the number fits with and
  without its exponent. -/
  fromStr_scientific : ∀ text base exponent decimal, Numeral.parseScientific text = some (base, exponent) →
    Decimal.Holds base → Decimal.Holds (base.shift exponent) →
    ExternalCrates.decimalFromStr text = some decimal → decimal.value = (base.shift exponent).value

end Blazil.Common
