import Blazil.Common.AmountSumsReference

/-! The amounts that a program can get hold of, and their serialised form (the `serde`
implementations of `core/common/src/amount.rs`). A sum is not checked against the limit of
the constructor, and the constructor is what reads a serialised amount back. -/

set_option autoImplicit false

namespace Blazil.Common

structure SerializedAmount where
  value : String
  currency : String
deriving DecidableEq

inductive DeserializeError where
  | notDecimal (text : String)
  | rejected (cause : BlazerError)
deriving DecidableEq

namespace Amount

def serialize [DecimalSums] (amount : Amount) : SerializedAmount :=
  ⟨DecimalSums.display amount.value, amount.currency.code⟩

def deserialize [ExternalCrates] (helper : SerializedAmount) : Except DeserializeError Amount :=
  match ExternalCrates.decimalFromStr helper.value with
  | none => .error (.notDecimal helper.value)
  | some value =>
    match parseCurrency helper.currency with
    | .error cause => .error (.rejected cause)
    | .ok currency =>
      match Amount.new value currency with
      | .error cause => .error (.rejected cause)
      | .ok amount => .ok amount

section Obtained

variable [ExternalCrates] [DecimalSums]

/-- The fields of an amount are private, so these are all the ways to one. A currency is a
variant of the enumeration of known ones. -/
inductive Obtained : Amount → Prop where
  | new {value currency amount} : ExternalCrates.currencyKnown currency.code = true →
      Amount.new value currency = .ok amount → Obtained amount
  | zero {currency} : ExternalCrates.currencyKnown currency.code = true → Obtained (.zero currency)
  | checkedAdd {left right sum} : Obtained left → Obtained right → left.checkedAdd right = .ok sum → Obtained sum
  | checkedSub {left right difference} : Obtained left → Obtained right → left.checkedSub right = .ok difference →
      Obtained difference

structure Sound (amount : Amount) : Prop where
  known : ExternalCrates.currencyKnown amount.currency.code = true
  nonneg : 0 ≤ amount.value.value
  scaled : amount.value.scale ≤ maxScale

end Obtained

end Amount

theorem Decimal.le_of_rounded {decimal : Decimal} {exact : ℚ} {bound : ℤ} (le : bound ≤ exact)
    (close : |decimal.value - exact| < 1 / 10 ^ decimal.scale) : bound ≤ decimal.value := by
  have power : (0 : ℚ) < 10 ^ decimal.scale := by positivity
  have above : bound - 1 / 10 ^ decimal.scale < decimal.value := by
    have := (abs_lt.mp close).1
    linarith
  unfold Decimal.value at above ⊢
  rw [lt_div_iff₀ power, sub_mul, one_div_mul_cancel power.ne'] at above
  rw [le_div_iff₀ power]
  have whole : bound * 10 ^ decimal.scale - 1 < decimal.signed := by exact_mod_cast above
  exact_mod_cast Int.sub_one_lt_iff.mp whole

theorem Decimal.nonneg_of_rounded {decimal : Decimal} {exact : ℚ} (nonneg : 0 ≤ exact)
    (close : |decimal.value - exact| < 1 / 10 ^ decimal.scale) : 0 ≤ decimal.value := by
  exact_mod_cast @Decimal.le_of_rounded decimal exact 0 (by exact_mod_cast nonneg) close

namespace Amount

variable {left right sum difference : Amount}

theorem checkedSub_ok [DecimalSums] (subtracted : left.checkedSub right = .ok difference) :
    difference.currency = left.currency ∧ right.value.value ≤ left.value.value ∧
      DecimalSums.checkedSub left.value right.value = some difference.value := by
  unfold checkedSub at subtracted
  split at subtracted
  · cases subtracted
  · split at subtracted
    · cases subtracted
    · next covered =>
      rw [Decimal.blt_iff, not_lt] at covered
      split at subtracted
      · cases subtracted
      · next computed =>
        cases subtracted
        exact ⟨rfl, covered, computed⟩

theorem lt_of_checkedAdd [DecimalSums] [DecimalSumLaws] (added : left.checkedAdd right = .ok sum)
    (below : left.value.value + right.value.value ≤ Decimal.maxHalf.value - 1) : sum.value.value < Decimal.maxHalf.value := by
  obtain ⟨_, close⟩ := DecimalSumLaws.add_rounded _ _ _ (checkedAdd_ok added).2
  have unit : (1 : ℚ) / 10 ^ sum.value.scale ≤ 1 := by
    rw [div_le_one (by positivity)]
    exact one_le_pow₀ (by norm_num)
  have := (abs_lt.mp close).2
  linarith

theorem le_of_checkedAdd [DecimalSums] [DecimalSumLaws] (added : left.checkedAdd right = .ok sum)
    (above : Decimal.maxHalf.value ≤ left.value.value + right.value.value) : Decimal.maxHalf.value ≤ sum.value.value := by
  have whole : ((2 ^ 95 : ℤ) : ℚ) = Decimal.maxHalf.value := by
    rw [Decimal.value_maxHalf]
    norm_num
  rw [← whole] at above ⊢
  exact Decimal.le_of_rounded above (DecimalSumLaws.add_rounded _ _ _ (checkedAdd_ok added).2).2

variable [ExternalCrates] [DecimalSums] [DecimalSumLaws] {amount : Amount}

theorem Sound.checkedAdd (leftSound : left.Sound)
    (rightSound : right.Sound) (added : left.checkedAdd right = .ok sum) : sum.Sound := by
  obtain ⟨currency, computed⟩ := checkedAdd_ok added
  obtain ⟨scale, close⟩ := DecimalSumLaws.add_rounded _ _ _ computed
  exact ⟨currency ▸ leftSound.known, Decimal.nonneg_of_rounded (add_nonneg leftSound.nonneg rightSound.nonneg) close,
    scale.trans (max_le leftSound.scaled rightSound.scaled)⟩

theorem Sound.checkedSub (leftSound : left.Sound) (rightSound : right.Sound)
    (subtracted : left.checkedSub right = .ok difference) : difference.Sound := by
  obtain ⟨currency, covered, computed⟩ := checkedSub_ok subtracted
  obtain ⟨scale, close⟩ := DecimalSumLaws.sub_rounded _ _ _ computed
  exact ⟨currency ▸ leftSound.known, Decimal.nonneg_of_rounded (sub_nonneg.mpr covered) close,
    scale.trans (max_le leftSound.scaled rightSound.scaled)⟩

theorem Obtained.sound (obtained : amount.Obtained) : amount.Sound := by
  induction obtained with
  | new known created =>
    obtain ⟨rfl, nonneg, scaled, _⟩ := Amount.new_spec created
    exact ⟨known, nonneg, scaled⟩
  | zero known => exact ⟨known, Decimal.value_zero.ge, Nat.zero_le _⟩
  | checkedAdd _ _ added leftIH rightIH => exact leftIH.checkedAdd rightIH added
  | checkedSub _ _ subtracted leftIH rightIH => exact leftIH.checkedSub rightIH subtracted

/-- The written form is read exactly, so that only the constructor can refuse it. -/
theorem deserialize_serialize (sound : amount.Sound) :
    ∃ value : Decimal, value.value = amount.value.value ∧ value.scale = amount.value.scale ∧
      deserialize amount.serialize = (Amount.new value amount.currency).mapError .rejected := by
  obtain ⟨_, written, digits, scale, numeralValue⟩ :=
    DecimalSumLaws.display_numeral amount.value
  obtain ⟨value, read, readValue, readScale⟩ := ExternalCrates.fromStr_exact _ _ written
    (digits ▸ amount.value.mantissa_lt) (scale ▸ amount.value.scale_le)
  refine ⟨value, readValue.trans numeralValue, readScale.trans scale, ?_⟩
  simp only [deserialize, serialize, read, parseCurrency, Currency.fromStr, sound.known, if_true]
  cases Amount.new value amount.currency <;> rfl

def ReadBack (amount : Amount) : Prop :=
  ∃ same, deserialize amount.serialize = .ok same ∧
    same.value.value = amount.value.value ∧ same.value.scale = amount.value.scale ∧
    same.currency = amount.currency

theorem Sound.readBack_iff (sound : amount.Sound) : amount.ReadBack ↔ amount.value.value < Decimal.maxHalf.value := by
  obtain ⟨value, same, scale, read⟩ := deserialize_serialize sound
  constructor
  · rintro ⟨_, returned, _⟩
    rw [read] at returned
    cases created : Amount.new value amount.currency with
    | error =>
      rw [created] at returned
      cases returned
    | ok =>
      obtain ⟨_, _, _, below⟩ := Amount.new_spec created
      exact same ▸ below
  · intro below
    refine ⟨⟨value, amount.currency⟩, ?_, same, scale, rfl⟩
    rw [read, Amount.new_ok (same ▸ sound.nonneg) (scale ▸ sound.scaled) (same ▸ below)]
    rfl

/-- Every amount is non-negative and short enough. It is read back from its serialised form
exactly if it is below the limit of the constructor. A sum is if its operands stay a unit below
the limit together, and is not if they reach it. -/
theorem obtained_read_back_iff (obtained : amount.Obtained) : 0 ≤ amount.value.value ∧ amount.value.scale ≤ maxScale ∧
      (amount.ReadBack ↔ amount.value.value < Decimal.maxHalf.value) ∧
      ∀ left right : Amount, left.checkedAdd right = .ok amount →
        (left.value.value + right.value.value ≤ Decimal.maxHalf.value - 1 → amount.ReadBack) ∧
        (Decimal.maxHalf.value ≤ left.value.value + right.value.value → ¬amount.ReadBack) := by
  have read := obtained.sound.readBack_iff
  refine ⟨obtained.sound.nonneg, obtained.sound.scaled, read, fun left right added => ⟨fun below => ?_, fun above => ?_⟩⟩
  · exact read.mpr (lt_of_checkedAdd added below)
  · rw [read, not_lt]
    exact le_of_checkedAdd added above

omit [ExternalCrates] [DecimalSums] [DecimalSumLaws]

def fifteenDollars : Decimal := .ofUInt64 15

theorem obtained_fifteenDollars : @Obtained referenceCrates referenceSums ⟨fifteenDollars, ⟨"USD"⟩⟩ := by
  have ten : @Obtained referenceCrates referenceSums ⟨.ofUInt64 10, ⟨"USD"⟩⟩ :=
    @Obtained.new referenceCrates referenceSums (.ofUInt64 10) ⟨"USD"⟩ _ (by decide) (by decide)
  have five : @Obtained referenceCrates referenceSums ⟨.ofUInt64 5, ⟨"USD"⟩⟩ :=
    @Obtained.new referenceCrates referenceSums (.ofUInt64 5) ⟨"USD"⟩ _ (by decide) (by decide)
  exact @Obtained.checkedAdd referenceCrates referenceSums _ _ _ ten five (by decide)

theorem fifteenDollars_below : fifteenDollars.value < Decimal.maxHalf.value := by
  have number : (15 : UInt64).toNat = 15 := rfl
  rw [Decimal.value_maxHalf]
  norm_num [fifteenDollars, Decimal.ofUInt64, Decimal.value, Decimal.signed, number]

theorem fifteenDollars_read_back : ∃ same,
    @deserialize referenceCrates (@serialize referenceSums ⟨fifteenDollars, ⟨"USD"⟩⟩) = .ok same ∧
      same.value.value = fifteenDollars.value := by
  obtain ⟨_, _, read, _⟩ := @obtained_read_back_iff referenceCrates referenceSums referenceSumLaws _ obtained_fifteenDollars
  obtain ⟨same, returned, value, _⟩ := read.mpr fifteenDollars_below
  exact ⟨same, returned, value⟩

theorem largest_lt : 39614081257132168796771975167 < 2 ^ 96 := by decide

theorem twiceLargest_lt : 79228162514264337593543950334 < 2 ^ 96 := by decide

def largest : Decimal :=
  { Decimal.zero with mantissa := 39614081257132168796771975167, mantissa_lt := largest_lt }

def twiceLargest : Decimal :=
  { Decimal.zero with mantissa := 79228162514264337593543950334, mantissa_lt := twiceLargest_lt }

theorem obtained_twiceLargest : @Obtained referenceCrates referenceSums ⟨twiceLargest, ⟨"JPY"⟩⟩ := by
  have once : @Obtained referenceCrates referenceSums ⟨largest, ⟨"JPY"⟩⟩ :=
    @Obtained.new referenceCrates referenceSums largest ⟨"JPY"⟩ _ (by decide)
      (by decide)
  exact @Obtained.checkedAdd referenceCrates referenceSums _ _ _ once once (by decide)

/-- Two amounts below the limit have a sum above it, which is not read back. -/
theorem sum_above_limit : ∃ amount, @Obtained referenceCrates referenceSums amount ∧ Decimal.maxHalf.value ≤ amount.value.value ∧
    @deserialize referenceCrates (@serialize referenceSums amount) = .error (.rejected .amountOverflow) := by
  refine ⟨_, obtained_twiceLargest, ?_, by decide⟩
  rw [Decimal.value_maxHalf]
  norm_num [twiceLargest, Decimal.zero, Decimal.value, Decimal.signed]

end Amount

end Blazil.Common
