import Blazil.Common.Ids

/-! Currencies and monetary amounts, with their sums and differences (`core/common/src/currency.rs`
and `amount.rs`). The decimal operations under the sums may round. -/

set_option autoImplicit false

namespace Blazil.Common

/-- An ISO currency, identified by its alphabetic code. -/
structure Currency where
  code : String
deriving DecidableEq

def Currency.fromStr [ExternalCrates] (code : String) : Option Currency :=
  if ExternalCrates.currencyKnown code then some ⟨code⟩ else none

def parseCurrency [ExternalCrates] (code : String) : BlazerResult Currency :=
  match Currency.fromStr code with
  | some currency => .ok currency
  | none => .error (.invalidCurrency code)

structure Amount where
  value : Decimal
  currency : Currency
deriving DecidableEq

def maxScale : Nat := 8

def Amount.new (value : Decimal) (currency : Currency) : BlazerResult Amount :=
  if value.blt .zero then .error .negativeAmount
  else if value.scale > maxScale then .error (.invalidAmountScale value.scale)
  else if !value.blt .maxHalf then .error .amountOverflow
  else .ok ⟨value, currency⟩

variable {value : Decimal} {currency : Currency}

theorem Amount.new_spec {amount : Amount} (created : Amount.new value currency = .ok amount) :
    amount = ⟨value, currency⟩ ∧ 0 ≤ value.value ∧ value.scale ≤ maxScale ∧ value.value < Decimal.maxHalf.value := by
  unfold Amount.new at created
  split at created
  · cases created
  · next nonneg =>
    split at created
    · cases created
    · next scaled =>
      split at created
      · cases created
      · next below =>
        cases created
        refine ⟨rfl, ?_, Nat.le_of_not_lt scaled, ?_⟩
        · rw [Decimal.blt_iff, Decimal.value_zero] at nonneg
          exact not_lt.mp nonneg
        · rw [← Decimal.blt_iff]
          simpa using below

theorem Amount.new_ok (nonneg : 0 ≤ value.value) (scaled : value.scale ≤ maxScale)
    (below : value.value < Decimal.maxHalf.value) : Amount.new value currency = .ok ⟨value, currency⟩ := by
  have notNegative : ¬value.blt .zero = true := by
    rw [Decimal.blt_iff, Decimal.value_zero]
    exact not_lt.mpr nonneg
  have small : value.blt .maxHalf = true := Decimal.blt_iff.mpr below
  simp [Amount.new, notNegative, small, Nat.not_lt.mpr scaled]

/-- Further calls into `rust_decimal`. -/
class DecimalSums where
  checkedAdd : Decimal → Decimal → Option Decimal
  checkedSub : Decimal → Decimal → Option Decimal
  display : Decimal → String
  /-- Sums within the representation are exact. -/
  add_exact : ∀ left right, Decimal.Representable (left.value + right.value) →
    ∃ sum, checkedAdd left right = some sum ∧ sum.value = left.value + right.value

/-- A sum overflows from some magnitude on, which lies between the largest decimal and the next whole number. -/
class DecimalOverflow [DecimalSums] where
  limit : ℚ
  largest_lt : 2 ^ 96 - 1 < limit
  limit_le : limit ≤ 2 ^ 96
  add_none_iff : ∀ left right, DecimalSums.checkedAdd left right = none ↔ limit ≤ |left.value + right.value|

/-- What the documentation says about sums and texts of decimals. A result keeps to the longer
of the two scales, and differs from the exact one by less than a unit in its last place. -/
class DecimalSumLaws [DecimalSums] : Prop where
  add_rounded : ∀ left right sum, DecimalSums.checkedAdd left right = some sum → sum.scale ≤ max left.scale right.scale ∧
      |sum.value - (left.value + right.value)| < 1 / 10 ^ sum.scale
  sub_rounded : ∀ left right difference, DecimalSums.checkedSub left right = some difference →
    difference.scale ≤ max left.scale right.scale ∧
      |difference.value - (left.value - right.value)| < 1 / 10 ^ difference.scale
  /-- A decimal is written with all its digits and decimal places. -/
  display_numeral : ∀ decimal, ∃ numeral, Foundation.Numeral.parse (DecimalSums.display decimal) = some numeral ∧
      numeral.digits = decimal.mantissa ∧ numeral.scale = decimal.scale ∧
      numeral.value = decimal.value

namespace Amount

def zero (currency : Currency) : Amount := ⟨.zero, currency⟩

variable [DecimalSums]

def checkedAdd (left right : Amount) : BlazerResult Amount :=
  if left.currency ≠ right.currency then
    .error (.currencyMismatch left.currency.code right.currency.code)
  else
    match DecimalSums.checkedAdd left.value right.value with
    | none => .error .amountOverflow
    | some value => .ok ⟨value, left.currency⟩

def checkedSub (left right : Amount) : BlazerResult Amount :=
  if left.currency ≠ right.currency then
    .error (.currencyMismatch left.currency.code right.currency.code)
  else if left.value.blt right.value then
    .error (.insufficientFunds (DecimalSums.display left.value) (DecimalSums.display right.value))
  else
    match DecimalSums.checkedSub left.value right.value with
    | none => .error .amountOverflow
    | some value => .ok ⟨value, left.currency⟩

theorem checkedAdd_ok {left right sum : Amount} (added : left.checkedAdd right = .ok sum) :
    sum.currency = left.currency ∧ DecimalSums.checkedAdd left.value right.value = some sum.value := by
  unfold checkedAdd at added
  split at added
  · cases added
  · split at added
    · cases added
    · next computed =>
      cases added
      exact ⟨rfl, computed⟩

end Amount

end Blazil.Common
