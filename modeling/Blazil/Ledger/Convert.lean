import Blazil.Common.AmountObtained
import Mathlib.Tactic.IntervalCases

/-! Conversions at the ledger boundary (`core/ledger/src/convert.rs`): decimal amounts against
integer minor units, and ledger numbers against currencies. Minor units come back from every
amount that they were turned into. An amount may lie above the limit that the way back checks. -/

set_option autoImplicit false

namespace Blazil.Ledger

open Blazil.Common Foundation

def zeroDecimalCodes : List String :=
  ["JPY", "VND", "KRW", "CLP", "ISK", "PYG", "UGX", "XOF", "GNF", "IDR"]

def currencyScale (currency : Currency) : UInt64 :=
  if currency.code ∈ zeroDecimalCodes then 1
  else if currency.code ∈ ["BTC", "XBT"] then 100000000
  else if currency.code = "ETH" then 1000000000000000000
  else 100

def ledgerCode (ledgerId : UInt32) : Option String :=
  match ledgerId.toNat with
  | 1 => some "USD"
  | 2 => some "EUR"
  | 3 => some "GBP"
  | 4 => some "JPY"
  | 5 => some "VND"
  | 6 => some "BTC"
  | 7 => some "ETH"
  | _ => none

def accountIdToU128 (id : AccountId) : BitVec 128 := BitVec.ofNat 128 id.value.toNat

/-- The big-endian bytes of a UUID are its number. -/
def transferIdToU128 (id : TransferId) : BitVec 128 := id.uuid

def ledgerIdToU32 (id : LedgerId) : UInt32 := id.value

section Conversions

variable [ExternalCrates]

def amountToMinorUnits (amount : Amount) : BlazerResult Nat :=
  match ExternalCrates.checkedMul amount.value (.ofUInt64 (currencyScale amount.currency)) with
  | none => .error .amountOverflow
  | some scaled =>
    if !scaled.fract.isZero then .error .amountOverflow
    else
      match scaled.toU128 with
      | none => .error .amountOverflow
      | some units => .ok units

def minorUnitsToAmount (minorUnits : Nat) (currency : Currency) : BlazerResult Amount :=
  match ExternalCrates.decimalFromStr (toString minorUnits) with
  | none => .error .amountOverflow
  | some minor =>
    match ExternalCrates.checkedDiv minor (.ofUInt64 (currencyScale currency)) with
    | none => .error .amountOverflow
    | some value => Amount.new value currency

def ledgerIdToCurrency (ledgerId : LedgerId) : BlazerResult Currency :=
  match ledgerCode ledgerId.value with
  | none => .error (.validationError ("unknown ledger_id: " ++ toString ledgerId.value.toNat))
  | some code =>
    match Currency.fromStr code with
    | some currency => .ok currency
    | none => .error (.validationError ("bad currency code: " ++ code))

end Conversions

theorem currencyScale_pow (currency : Currency) : ∃ places ≤ 18, (currencyScale currency).toNat = 10 ^ places := by
  unfold currencyScale
  split
  · exact ⟨0, by decide, by decide⟩
  · split
    · exact ⟨8, by decide, by decide⟩
    · split
      · exact ⟨18, by decide, by decide⟩
      · exact ⟨2, by decide, by decide⟩

theorem currencyScale_pos (currency : Currency) : 0 < (currencyScale currency).toNat := by
  obtain ⟨_, _, power⟩ := currencyScale_pow currency
  rw [power]
  positivity

theorem ledgerCode_fiat {ledgerId : UInt32} (low : 1 ≤ ledgerId.toNat) (high : ledgerId.toNat ≤ 5) :
    ∃ code, ledgerCode ledgerId = some code ∧ code ∈ ["USD", "EUR", "GBP", "JPY", "VND"] := by
  unfold ledgerCode
  generalize ledgerId.toNat = number at *
  interval_cases number <;> exact ⟨_, rfl, by decide⟩

theorem value_mul_pow (decimal : Decimal) (places : Nat) : decimal.value * 10 ^ places =
    decimal.signed * 10 ^ (places - decimal.scale) / 10 ^ (decimal.scale - places) := by
  have powers : (10 : ℚ) ^ places * 10 ^ (decimal.scale - places) = 10 ^ (places - decimal.scale) * 10 ^ decimal.scale := by
    rw [← pow_add, ← pow_add]
    congr 1
    omega
  unfold Decimal.value
  rw [div_mul_eq_mul_div, div_eq_div_iff (by positivity) (by positivity), mul_assoc, powers, mul_assoc]

section Exactness

variable [ExternalCrates] {places units : Nat} {ledgerId : LedgerId}

theorem checkedMul_pow_exact {decimal product : Decimal} {scale : UInt64} (power : scale.toNat = 10 ^ places)
    (multiplied : ExternalCrates.checkedMul decimal (.ofUInt64 scale) = some product) :
    product.value = decimal.value * scale.toNat := by
  have scaled : (Decimal.ofUInt64 scale).value = 10 ^ places := by
    rw [Decimal.value_ofUInt64, power, Nat.cast_pow, Nat.cast_ofNat]
  have exact : Decimal.Representable (decimal.value * (Decimal.ofUInt64 scale).value) := by
    rw [scaled, value_mul_pow]
    by_cases fits : decimal.mantissa * 10 ^ (places - decimal.scale) < 2 ^ 96
    · refine ⟨⟨decimal.negative, decimal.mantissa * 10 ^ (places - decimal.scale), decimal.scale - places, fits,
        (Nat.sub_le _ _).trans decimal.scale_le⟩, ?_⟩
      unfold Decimal.value Decimal.signed
      split <;> push_cast <;> ring
    · have whole : decimal.scale - places = 0 := by
        by_contra long
        rw [show places - decimal.scale = 0 by omega, pow_zero, mul_one] at fits
        exact fits decimal.mantissa_lt
      have overflow : 2 ^ 96 ≤ |decimal.value * (Decimal.ofUInt64 scale).value| := by
        have magnitude : |(decimal.signed : ℚ)| = decimal.mantissa := by
          unfold Decimal.signed
          split <;> simp
        rw [scaled, value_mul_pow, whole, pow_zero, div_one, abs_mul, magnitude, abs_of_nonneg (by positivity)]
        exact_mod_cast Nat.le_of_not_lt fits
      rw [ExternalCrates.mul_overflow _ _ overflow] at multiplied
      cases multiplied
  obtain ⟨_, computed, value⟩ := ExternalCrates.mul_exact _ _ exact
  rw [multiplied] at computed
  cases computed
  rw [value, Decimal.value_ofUInt64]

variable {amount : Amount} {minorUnits : Nat} {currency : Currency}

theorem amountToMinorUnits_spec (nonneg : 0 ≤ amount.value.value)
    (converted : amountToMinorUnits amount = .ok units) : amount.value.value * (currencyScale amount.currency).toNat = units := by
  unfold amountToMinorUnits at converted
  obtain ⟨_, _, power⟩ := currencyScale_pow amount.currency
  cases multiplied : ExternalCrates.checkedMul amount.value (.ofUInt64 (currencyScale amount.currency)) with
  | none => simp [multiplied] at converted
  | some scaled =>
    have exact := checkedMul_pow_exact power multiplied
    simp only [multiplied] at converted
    split at converted
    · cases converted
    · next integral =>
      cases truncated : scaled.toU128 with
      | none => simp [truncated] at converted
      | some whole =>
        simp only [truncated, Except.ok.injEq] at converted
        subst whole
        rw [← exact]
        exact Decimal.toU128_exact (by simpa using integral)
          (by rw [exact]; positivity) truncated

theorem amountToMinorUnits_ok (small : units < 2 ^ 96)
    (whole : amount.value.value * (currencyScale amount.currency).toNat = units) : amountToMinorUnits amount = .ok units := by
  have representable : Decimal.Representable (amount.value.value * (Decimal.ofUInt64 (currencyScale amount.currency)).value) := by
    refine ⟨⟨false, units, 0, small, Nat.zero_le _⟩, ?_⟩
    rw [Decimal.value_ofUInt64, whole]
    simp [Decimal.value, Decimal.signed]
  obtain ⟨_, multiplied, value⟩ := ExternalCrates.mul_exact _ _ representable
  rw [Decimal.value_ofUInt64, whole] at value
  obtain ⟨integral, truncated⟩ := Decimal.toU128_of_value value
  simp [amountToMinorUnits, multiplied, integral, truncated]

theorem minorUnitsToAmount_eq (small : minorUnits < 2 ^ 96) (currency : Currency) :
    ∃ value, minorUnitsToAmount minorUnits currency = Amount.new value currency ∧
      value.value = minorUnits / (currencyScale currency).toNat ∧
      ∀ exact : Decimal, exact.value = minorUnits / (currencyScale currency).toNat → value.scale ≤ exact.scale := by
  obtain ⟨places, _, power⟩ := currencyScale_pow currency
  obtain ⟨minor, read, minorValue, noDecimals⟩ := ExternalCrates.fromStr_exact _ _
    (Numeral.parse_toString minorUnits) small (Nat.zero_le _)
  have minorValue : minor.value = minorUnits := by
    rw [minorValue]
    simp [Numeral.value, Numeral.magnitude]
  have divisor : (Decimal.ofUInt64 (currencyScale currency)).value ≠ 0 := by
    rw [Decimal.value_ofUInt64]
    exact_mod_cast (currencyScale_pos currency).ne'
  have representable : Decimal.Representable (minor.value / (Decimal.ofUInt64 (currencyScale currency)).value) := by
    refine ⟨⟨false, minorUnits, places, small, by omega⟩, ?_⟩
    rw [minorValue, Decimal.value_ofUInt64, power]
    simp [Decimal.value, Decimal.signed]
  obtain ⟨value, divided, quotient, shortest⟩ := ExternalCrates.div_exact _ _ divisor representable
  rw [minorValue, Decimal.value_ofUInt64] at quotient shortest
  exact ⟨value, by simp only [minorUnitsToAmount, read, divided], quotient, shortest noDecimals⟩

theorem minorUnitsToAmount_spec (small : minorUnits < 2 ^ 96) (converted : minorUnitsToAmount minorUnits currency = .ok amount) :
    amount.value.value = minorUnits / (currencyScale currency).toNat := by
  obtain ⟨_, same, quotient, _⟩ := minorUnitsToAmount_eq small currency
  rw [same] at converted
  obtain ⟨rfl, _⟩ := Amount.new_spec converted
  exact quotient

theorem minorUnitsToAmount_currency (converted : minorUnitsToAmount minorUnits currency = .ok amount) :
    amount.currency = currency := by
  unfold minorUnitsToAmount at converted
  split at converted
  · cases converted
  · split at converted
    · cases converted
    · obtain ⟨rfl, _⟩ := Amount.new_spec converted
      rfl

theorem amountToMinorUnits_minorUnitsToAmount (small : minorUnits < 2 ^ 96)
    (converted : minorUnitsToAmount minorUnits currency = .ok amount) : amountToMinorUnits amount = .ok minorUnits := by
  refine amountToMinorUnits_ok small ?_
  have nonzero : ((currencyScale currency).toNat : ℚ) ≠ 0 := by
    exact_mod_cast (currencyScale_pos currency).ne'
  rw [minorUnitsToAmount_currency converted, minorUnitsToAmount_spec small converted]
  exact div_mul_cancel₀ _ nonzero

theorem minorUnitsToAmount_ok (small : minorUnits < 2 ^ 64)
    (power : (currencyScale currency).toNat = 10 ^ places) (short : places ≤ 8) :
    ∃ amount, minorUnitsToAmount minorUnits currency = .ok amount ∧ amount.value.scale ≤ 8 ∧
      amount.value.value = minorUnits / (currencyScale currency).toNat := by
  have small96 : minorUnits < 2 ^ 96 := Nat.lt_trans small (by decide)
  obtain ⟨value, same, quotient, shortest⟩ := minorUnitsToAmount_eq small96 currency
  have scale : value.scale ≤ places := by
    refine shortest ⟨false, minorUnits, places, small96, by omega⟩ ?_
    rw [power]
    simp [Decimal.value, Decimal.signed]
  refine ⟨⟨value, currency⟩, ?_, scale.trans short, quotient⟩
  rw [same]
  apply Amount.new_ok
  · rw [quotient]
    positivity
  · exact scale.trans short
  · rw [quotient, Decimal.value_maxHalf]
    have one : (1 : ℚ) ≤ (currencyScale currency).toNat := by
      exact_mod_cast currencyScale_pos currency
    calc (minorUnits : ℚ) / (currencyScale currency).toNat ≤ minorUnits :=
          div_le_self (by positivity) one
      _ < 2 ^ 95 := by exact_mod_cast Nat.lt_trans small (by decide)

theorem ledgerIdToCurrency_fiat {code : String} (listed : ledgerCode ledgerId.value = some code)
    (fiat : code ∈ ["USD", "EUR", "GBP", "JPY", "VND"]) : ledgerIdToCurrency ledgerId = .ok ⟨code⟩ := by
  simp [ledgerIdToCurrency, listed, Currency.fromStr, ExternalCrates.fiat_known code fiat]

/-- Only the five fiat ledgers have a currency that the parser knows. -/
theorem ledgerIdToCurrency_ok_bounds (resolved : ledgerIdToCurrency ledgerId = .ok currency) :
    1 ≤ ledgerId.value.toNat ∧ ledgerId.value.toNat ≤ 5 := by
  have bitcoin := ExternalCrates.crypto_unknown "BTC" (by simp)
  have ether := ExternalCrates.crypto_unknown "ETH" (by simp)
  unfold ledgerIdToCurrency ledgerCode at resolved
  generalize ledgerId.value.toNat = number at *
  match number with
  | 1 | 2 | 3 | 4 | 5 => exact ⟨by decide, by decide⟩
  | 6 => simp [Currency.fromStr, bitcoin] at resolved
  | 7 => simp [Currency.fromStr, ether] at resolved
  | 0 => simp at resolved
  | _ + 8 => simp at resolved

end Exactness

variable [ExternalCrates] {amount : Amount} {units : Nat}

theorem amountToMinorUnits_lt (converted : amountToMinorUnits amount = .ok units) : units < 2 ^ 96 := by
  unfold amountToMinorUnits at converted
  split at converted
  · cases converted
  · next scaled _ =>
    split at converted
    · cases converted
    · split at converted
      · cases converted
      · next whole truncated =>
        obtain rfl := Except.ok.inj converted
        unfold Decimal.toU128 at truncated
        dsimp only at truncated
        split at truncated
        · cases truncated
        · obtain rfl := Option.some.inj truncated
          exact Nat.lt_of_le_of_lt (Nat.div_le_self _ _) scaled.mantissa_lt

theorem minorUnitsToAmount_lt [DecimalRange] {currency : Currency}
    (converted : minorUnitsToAmount units currency = .ok amount) : units < 2 ^ 96 := by
  by_contra large
  have magnitude : (2 : ℚ) ^ 96 ≤ (⟨false, units, 0⟩ : Numeral).magnitude := by
    simp only [Numeral.magnitude, pow_zero, div_one]
    exact_mod_cast Nat.le_of_not_lt large
  have refused := DecimalRange.fromStr_overflow _ _ (Numeral.parse_toString units) magnitude
  unfold minorUnitsToAmount at converted
  rw [refused] at converted
  cases converted

theorem minorUnitsToAmount_amountToMinorUnits_iff (nonneg : 0 ≤ amount.value.value)
    (scaled : amount.value.scale ≤ maxScale) (converted : amountToMinorUnits amount = .ok units) :
    (∃ back, minorUnitsToAmount units amount.currency = .ok back ∧
        back.value.value = amount.value.value ∧ back.currency = amount.currency) ↔
      amount.value.value < Decimal.maxHalf.value := by
  obtain ⟨value, same, quotient, shortest⟩ :=
    minorUnitsToAmount_eq (amountToMinorUnits_lt converted) amount.currency
  have positive : ((currencyScale amount.currency).toNat : ℚ) ≠ 0 := by
    exact_mod_cast (currencyScale_pos amount.currency).ne'
  have exact : amount.value.value = units / (currencyScale amount.currency).toNat := by
    rw [eq_div_iff positive]
    exact amountToMinorUnits_spec nonneg converted
  have short : value.scale ≤ maxScale := (shortest amount.value exact).trans scaled
  rw [← exact] at quotient
  rw [same]
  constructor
  · rintro ⟨_, created, _⟩
    obtain ⟨_, _, _, below⟩ := Amount.new_spec created
    exact quotient ▸ below
  · intro below
    exact ⟨⟨value, amount.currency⟩, Amount.new_ok (quotient ▸ nonneg) short (quotient ▸ below), quotient, rfl⟩

/-- In every currency, minor units survive the way through an amount. An amount survives the
way through minor units exactly if it is below the limit of the constructor. -/
theorem minorUnits_round_trips [DecimalRange] [DecimalSums] [DecimalSumLaws] (currency : Currency) :
    (∀ units amount, minorUnitsToAmount units currency = .ok amount → amountToMinorUnits amount = .ok units) ∧
    ∀ amount units, amount.Obtained → amount.currency = currency → amountToMinorUnits amount = .ok units →
      ((∃ back, minorUnitsToAmount units currency = .ok back ∧ back.value.value = amount.value.value ∧ back.currency = currency) ↔
        amount.value.value < Decimal.maxHalf.value) := by
  refine ⟨?_, ?_⟩
  · intro units amount converted
    exact amountToMinorUnits_minorUnitsToAmount (minorUnitsToAmount_lt converted) converted
  · rintro _ _ obtained rfl converted
    have sound := obtained.sound
    exact minorUnitsToAmount_amountToMinorUnits_iff sound.nonneg sound.scaled converted

omit [ExternalCrates]

theorem fifteenDollars_round_trip : @amountToMinorUnits referenceCrates ⟨Amount.fifteenDollars, ⟨"USD"⟩⟩ = .ok 1500 ∧
    ∃ back, @minorUnitsToAmount referenceCrates 1500 ⟨"USD"⟩ = .ok back ∧ back.value.value = Amount.fifteenDollars.value := by
  have units : @amountToMinorUnits referenceCrates ⟨Amount.fifteenDollars, ⟨"USD"⟩⟩ = .ok 1500 := by
    decide
  obtain ⟨_, there⟩ := @minorUnits_round_trips referenceCrates referenceRange referenceSums
    referenceSumLaws ⟨"USD"⟩
  obtain ⟨back, converted, value, _⟩ := (there _ _ Amount.obtained_fifteenDollars rfl units).mpr Amount.fifteenDollars_below
  exact ⟨units, back, converted, value⟩

/-- A sum of two yen amounts has minor units that are not turned back. -/
theorem yen_above_limit : ∃ amount units, @Amount.Obtained referenceCrates referenceSums amount ∧
    @amountToMinorUnits referenceCrates amount = .ok units ∧
    @minorUnitsToAmount referenceCrates units amount.currency = .error .amountOverflow :=
  ⟨_, 79228162514264337593543950334, Amount.obtained_twiceLargest, by decide,
    by decide⟩

end Blazil.Ledger
