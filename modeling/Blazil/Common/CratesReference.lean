import Blazil.Common.Crates

/-! A reference implementation of the third-party operations, used where a concrete
run has to be evaluated. It computes exactly whatever is representable, so it meets
every law the model assumes. -/

set_option autoImplicit false

namespace Blazil.Common

open Foundation

namespace Reference

def ofParts? (negative : Bool) (mantissa scale : Nat) : Option Decimal :=
  if fits : mantissa < 2 ^ 96 ∧ scale ≤ 28 then
    some ⟨negative, mantissa, scale, fits.1, fits.2⟩
  else none

def roundDiv (number divisor : Nat) : Nat :=
  let twice := 2 * (number % divisor)
  if divisor < twice ∨ twice = divisor ∧ number / divisor % 2 = 1 then number / divisor + 1
  else number / divisor

/-- A fraction with as many decimal places as fit. -/
def keep (negative : Bool) (number divisor : Nat) : Nat → Option Decimal
  | 0 => ofParts? negative (roundDiv (number * 10 ^ 0) divisor) 0
  | places + 1 =>
    match ofParts? negative (roundDiv (number * 10 ^ (places + 1)) divisor) (places + 1) with
    | some decimal => some decimal
    | none => keep negative number divisor places

def readNumeral (numeral : Numeral) : Option Decimal :=
  keep numeral.negative numeral.digits (10 ^ numeral.scale) numeral.scale

def fromStr (text : String) : Option Decimal :=
  (Numeral.parseScientific text).bind fun written => readNumeral (written.1.shift written.2)

theorem fromStr_plain {text : String} {numeral : Numeral} (parsed : Numeral.parse text = some numeral) :
    fromStr text = readNumeral numeral := by
  simp only [fromStr, Numeral.parseScientific, parsed, Option.bind_some, Numeral.shift_zero]

def mul (left right : Decimal) : Option Decimal :=
  keep (left.negative != right.negative) (left.mantissa * right.mantissa) (10 ^ (left.scale + right.scale))
    (left.scale + right.scale)

/-- The fewest decimal places at which the division comes out even, if 28 suffice. -/
def div (left right : Decimal) : Option Decimal :=
  let negative := left.negative != right.negative
  let dividend := left.mantissa * 10 ^ right.scale
  let divisor := right.mantissa * 10 ^ left.scale
  if divisor = 0 then none
  else
    match (List.range 29).find? fun places => (dividend * 10 ^ places) % divisor == 0 with
    | some places => ofParts? negative (dividend * 10 ^ places / divisor) places
    | none => keep negative dividend divisor 28

def hexDigit? (char : Char) : Option Nat :=
  if char.isDigit then some (char.toNat - '0'.toNat)
  else if 'a' ≤ char ∧ char ≤ 'f' then some (char.toNat - 'a'.toNat + 10)
  else if 'A' ≤ char ∧ char ≤ 'F' then some (char.toNat - 'A'.toNat + 10)
  else none

def hexChar (digit : Nat) : Char :=
  if digit < 10 then Char.ofNat ('0'.toNat + digit) else Char.ofNat ('a'.toNat + digit - 10)

/-- The hyphenated form: 32 hexadecimal digits in groups of 8, 4, 4, 4 and 12. -/
def uuidText (uuid : Uuid) : String :=
  let digits := (List.range 32).map fun place => hexChar (uuid.toNat / 16 ^ (31 - place) % 16)
  String.ofList (digits.take 8 ++ '-' :: (digits.drop 8).take 4 ++ '-' :: (digits.drop 12).take 4 ++
    '-' :: (digits.drop 16).take 4 ++ '-' :: digits.drop 20)

def uuid (text : String) : Option Uuid :=
  let chars := text.toList
  let hyphens := (List.range chars.length).filter fun place => chars[place]? == some '-'
  if hyphens = [] ∧ chars.length = 32 ∨ hyphens = [8, 13, 18, 23] ∧ chars.length = 36 then
    ((chars.filter (· ≠ '-')).mapM hexDigit?).map fun digits =>
      BitVec.ofNat 128 (digits.foldl (fun number digit => 16 * number + digit) 0)
  else none

variable {decimal exact left right : Decimal} {numeral : Numeral} {negative : Bool} {number divisor places scale : Nat}

theorem ofParts?_some (made : ofParts? negative number scale = some decimal) :
    decimal.negative = negative ∧ decimal.mantissa = number ∧ decimal.scale = scale := by
  unfold ofParts? at made
  split at made
  · cases made
    exact ⟨rfl, rfl, rfl⟩
  · cases made

theorem ofParts?_fits (small : number < 2 ^ 96) (short : scale ≤ 28) :
    ofParts? negative number scale = some ⟨negative, number, scale, small, short⟩ :=
  dif_pos ⟨small, short⟩

def fraction (negative : Bool) (number divisor : Nat) : ℚ :=
  (if negative then -(number : ℚ) else number) / divisor

theorem value_eq_fraction (decimal : Decimal) :
    decimal.value = fraction decimal.negative decimal.mantissa (10 ^ decimal.scale) := by
  unfold Decimal.value Decimal.signed fraction
  split <;> push_cast <;> rfl

theorem abs_fraction : |fraction negative number divisor| = number / divisor := by
  unfold fraction
  split <;> simp [abs_div]

theorem value_mul (left right : Decimal) : left.value * right.value = fraction (left.negative != right.negative)
    (left.mantissa * right.mantissa) (10 ^ (left.scale + right.scale)) := by
  rw [value_eq_fraction, value_eq_fraction]
  unfold fraction
  cases left.negative <;> cases right.negative <;> simp [pow_add] <;> ring

theorem value_div (left right : Decimal) : left.value / right.value = fraction (left.negative != right.negative)
    (left.mantissa * 10 ^ right.scale) (right.mantissa * 10 ^ left.scale) := by
  rw [value_eq_fraction, value_eq_fraction]
  unfold fraction
  cases left.negative <;> cases right.negative <;> simp [div_div_div_eq, neg_div, div_neg, mul_comm]

theorem value_of_cross (positive : 0 < divisor) (sign : decimal.negative = negative)
    (cross : decimal.mantissa * divisor = number * 10 ^ decimal.scale) : decimal.value = fraction negative number divisor := by
  have magnitude : (decimal.mantissa : ℚ) / (10 ^ decimal.scale : Nat) = number / divisor := by
    rw [div_eq_div_iff (by positivity) (by positivity)]
    exact_mod_cast cross
  rw [value_eq_fraction, sign, fraction, fraction]
  split
  · rw [neg_div, neg_div, magnitude]
  · exact magnitude

theorem cross_of_value (positive : 0 < divisor) (same : decimal.value = fraction negative number divisor) :
    decimal.mantissa * divisor = number * 10 ^ decimal.scale := by
  have magnitude := congrArg abs same
  rw [Decimal.abs_value, abs_fraction, div_eq_div_iff (by positivity) (by positivity)] at magnitude
  exact_mod_cast magnitude

section Rounding

variable (positive : 0 < divisor)
include positive

theorem roundDiv_mul (number : Nat) : roundDiv (number * divisor) divisor = number := by
  have even : ¬(divisor < 2 * 0 ∨ 2 * 0 = divisor ∧ number % 2 = 1) := by omega
  rw [roundDiv, Nat.mul_mod_left, Nat.mul_div_cancel _ positive, if_neg even]

theorem roundDiv_close (number : Nat) : 2 * (roundDiv number divisor * divisor) ≤ 2 * number + divisor ∧
      2 * number ≤ 2 * (roundDiv number divisor * divisor) + divisor := by
  have parts := Nat.div_add_mod' number divisor
  have rest := Nat.mod_lt number positive
  unfold roundDiv
  dsimp only
  split
  · rw [Nat.add_mul]
    omega
  · omega

theorem roundDiv_le_iff {largest : Nat} (odd : largest % 2 = 1) :
    roundDiv number divisor ≤ largest ↔ 2 * number < 2 * (largest * divisor) + divisor := by
  have parts := Nat.div_add_mod' number divisor
  have rest := Nat.mod_lt number positive
  unfold roundDiv
  generalize number / divisor = quotient at *
  rcases Nat.lt_trichotomy quotient largest with below | rfl | above
  · have product := Nat.mul_le_mul_right divisor (Nat.succ_le_of_lt below)
    rw [Nat.succ_mul] at product
    dsimp only
    split <;> omega
  · simp only [odd, and_true]
    split <;> omega
  · have product := Nat.mul_le_mul_right divisor (Nat.succ_le_of_lt above)
    rw [Nat.succ_mul] at product
    dsimp only
    split <;> omega

/-- The largest mantissa is odd, so the half above it is rounded up. -/
theorem roundDiv_lt_iff : roundDiv number divisor < 2 ^ 96 ↔ 2 * number < 2 * ((2 ^ 96 - 1) * divisor) + divisor :=
  Nat.lt_iff_le_pred (by decide) |>.trans (roundDiv_le_iff positive (by decide))

theorem keep_none_iff : keep negative number divisor places = none ↔ 2 * ((2 ^ 96 - 1) * divisor) + divisor ≤ 2 * number := by
  induction places with
  | zero =>
    rw [← Nat.not_lt, ← roundDiv_lt_iff positive]
    simp [keep, ofParts?]
  | succ places ih =>
    unfold keep
    cases made : ofParts? negative (roundDiv (number * 10 ^ (places + 1)) divisor) (places + 1) with
    | none => exact ih
    | some decimal =>
      have small := (roundDiv_lt_iff positive).mp ((ofParts?_some made).2.1 ▸ decimal.mantissa_lt)
      have larger := Nat.le_mul_of_pos_right number (show 0 < 10 ^ (places + 1) by positivity)
      simp only [reduceCtorEq, false_iff, not_le]
      omega

omit positive

/-- What is kept is rounded once, and one more place would not fit. -/
theorem keep_some (made : keep negative number divisor places = some decimal) : decimal.negative = negative ∧
      decimal.scale ≤ places ∧ decimal.mantissa = roundDiv (number * 10 ^ decimal.scale) divisor ∧
      (decimal.scale < places → decimal.scale = 28 ∨ 2 ^ 96 ≤ roundDiv (number * 10 ^ (decimal.scale + 1)) divisor) := by
  induction places with
  | zero =>
    obtain ⟨sign, digits, none⟩ := ofParts?_some made
    rw [none]
    exact ⟨sign, le_refl 0, digits, fun below => absurd below (Nat.lt_irrefl 0)⟩
  | succ places ih =>
    unfold keep at made
    split at made
    · next fits =>
      cases made
      obtain ⟨sign, digits, kept⟩ := ofParts?_some fits
      rw [kept]
      exact ⟨sign, le_refl _, digits, fun below => absurd below (Nat.lt_irrefl _)⟩
    · next unfit =>
      obtain ⟨sign, shorter, digits, next⟩ := ih made
      refine ⟨sign, Nat.le_succ_of_le shorter, digits, fun _ => ?_⟩
      rcases Nat.lt_or_eq_of_le shorter with below | last
      · exact next below
      · have short := decimal.scale_le
        simp only [ofParts?, dite_eq_right_iff, reduceCtorEq, imp_false] at unfit
        rw [last] at short ⊢
        omega

include positive

theorem keep_close (made : keep negative number divisor places = some decimal) :
    |decimal.value - fraction negative number divisor| < 1 / 10 ^ decimal.scale := by
  obtain ⟨sign, _, digits, _⟩ := keep_some made
  obtain ⟨below, above⟩ := roundDiv_close positive (number * 10 ^ decimal.scale)
  rw [← digits] at below above
  have unit : (0 : ℚ) < divisor := by exact_mod_cast positive
  have belowRat : 2 * ((decimal.mantissa : ℚ) * divisor) ≤ 2 * (number * 10 ^ decimal.scale) + divisor := by exact_mod_cast below
  have aboveRat : 2 * ((number : ℚ) * 10 ^ decimal.scale) ≤ 2 * (decimal.mantissa * divisor) + divisor := by exact_mod_cast above
  have magnitude : |(decimal.mantissa : ℚ) / 10 ^ decimal.scale - number / divisor| < 1 / 10 ^ decimal.scale := by
    have close : |(decimal.mantissa : ℚ) * divisor - 10 ^ decimal.scale * number| < divisor := by
      rw [abs_lt]
      constructor <;> linarith
    rw [div_sub_div _ _ (by positivity) unit.ne', abs_div, abs_of_pos (show (0 : ℚ) < 10 ^ decimal.scale * divisor by positivity)]
    refine (div_lt_div_of_pos_right close (by positivity)).trans_eq ?_
    rw [div_mul_cancel_right₀ unit.ne', one_div]
  rw [value_eq_fraction, sign, fraction, fraction]
  push_cast
  split
  · rwa [neg_div, neg_div, ← neg_sub', abs_neg]
  · exact magnitude

theorem keep_exact (even : exact.mantissa * divisor = number * 10 ^ exact.scale) (enough : exact.scale ≤ places) :
    ∃ decimal, keep negative number divisor places = some decimal ∧ decimal.value = fraction negative number divisor := by
  have below : ∀ kept ≤ exact.scale, roundDiv (number * 10 ^ kept) divisor < 2 ^ 96 := by
    intro kept shorter
    have power := Nat.mul_le_mul_left number (Nat.pow_le_pow_right (show 0 < 10 by decide) shorter)
    have product : exact.mantissa * divisor ≤ (2 ^ 96 - 1) * divisor :=
      Nat.mul_le_mul_right divisor (Nat.le_pred_of_lt exact.mantissa_lt)
    rw [roundDiv_lt_iff positive]
    omega
  cases made : keep negative number divisor places with
  | none =>
    have large := (keep_none_iff positive).mp made
    have small := below 0 (Nat.zero_le _)
    rw [pow_zero, mul_one, roundDiv_lt_iff positive] at small
    omega
  | some decimal =>
    obtain ⟨sign, _, digits, next⟩ := keep_some made
    -- fewer places than the exact value has would have left room for one more
    have longer : exact.scale ≤ decimal.scale := by
      by_contra shorter
      have short := exact.scale_le
      rcases next (by omega) with most | large
      · omega
      · exact absurd (below _ (by omega)) (Nat.not_lt.mpr large)
    refine ⟨decimal, rfl, value_of_cross positive sign ?_⟩
    have power : 10 ^ decimal.scale = 10 ^ exact.scale * 10 ^ (decimal.scale - exact.scale) := by
      rw [← pow_add, Nat.add_sub_cancel' longer]
    have whole : number * 10 ^ decimal.scale = exact.mantissa * 10 ^ (decimal.scale - exact.scale) * divisor := by
      rw [power, ← mul_assoc, ← even, mul_right_comm]
    rw [digits, whole, roundDiv_mul positive]

end Rounding

theorem keep_representable (representable : Decimal.Representable (fraction negative number (10 ^ scale))) :
    ∃ short, keep negative number (10 ^ scale) scale = some short ∧ short.value = fraction negative number (10 ^ scale) := by
  obtain ⟨exact, same⟩ := representable
  have cross := cross_of_value (by positivity) same
  rcases Nat.le_total exact.scale scale with short | long
  · exact keep_exact (by positivity) cross short
  · have power : 10 ^ exact.scale = 10 ^ (exact.scale - scale) * 10 ^ scale := by rw [← pow_add, Nat.sub_add_cancel long]
    have digits : exact.mantissa = number * 10 ^ (exact.scale - scale) := by
      rw [power, ← mul_assoc] at cross
      exact Nat.eq_of_mul_eq_mul_right (by positivity) cross
    have small : number < 2 ^ 96 := (Nat.le_mul_of_pos_right number (by positivity)).trans_lt (digits ▸ exact.mantissa_lt)
    exact @keep_exact ⟨negative, number, scale, small, long.trans exact.scale_le⟩ _ _ _ _ (by positivity) rfl le_rfl

theorem mul_exact (representable : Decimal.Representable (left.value * right.value)) :
    ∃ product, mul left right = some product ∧ product.value = left.value * right.value := by
  rw [value_mul] at representable ⊢
  exact keep_representable representable

theorem mul_overflow (large : 2 ^ 96 ≤ |left.value * right.value|) : mul left right = none := by
  rw [value_mul, abs_fraction, le_div_iff₀ (by positivity)] at large
  have whole : 2 ^ 96 * 10 ^ (left.scale + right.scale) ≤ left.mantissa * right.mantissa := by exact_mod_cast large
  refine (keep_none_iff (by positivity)).mpr ?_
  omega

theorem div_exact (nonzero : right.value ≠ 0) (representable : Decimal.Representable (left.value / right.value)) :
    ∃ quotient, div left right = some quotient ∧ quotient.value = left.value / right.value ∧
      ∀ exact : Decimal, exact.value = left.value / right.value → quotient.scale ≤ exact.scale := by
  have divisor : right.mantissa ≠ 0 := by
    intro zero
    exact nonzero (Decimal.value_eq_zero_iff.mpr (by simp [Decimal.isZero, zero]))
  have positive : 0 < right.mantissa * 10 ^ left.scale := by positivity
  obtain ⟨decimal, same⟩ := representable
  rw [value_div] at same ⊢
  have cross := cross_of_value positive same
  unfold div
  rw [if_neg positive.ne']
  cases found : (List.range 29).find? fun places =>
      (left.mantissa * 10 ^ right.scale * 10 ^ places) % (right.mantissa * 10 ^ left.scale) == 0 with
  | none =>
    have inside : decimal.scale ∈ List.range 29 := List.mem_range.mpr (Nat.lt_succ_of_le decimal.scale_le)
    refine absurd ?_ (List.find?_eq_none.mp found decimal.scale inside)
    simp [← cross]
  | some places =>
    have first : ∀ exact : Decimal, exact.value = fraction (left.negative != right.negative)
        (left.mantissa * 10 ^ right.scale) (right.mantissa * 10 ^ left.scale) → places ≤ exact.scale := by
      intro exact exactly
      obtain ⟨_, _, earlier⟩ := List.find?_range_eq_some.mp found
      by_contra later
      have odd := earlier exact.scale (by omega)
      simp [← cross_of_value positive exactly] at odd
    have even := List.find?_some found
    rw [beq_iff_eq] at even
    have whole := Nat.div_mul_cancel (Nat.dvd_of_mod_eq_zero even)
    have bound : left.mantissa * 10 ^ right.scale * 10 ^ places / (right.mantissa * 10 ^ left.scale) ≤ decimal.mantissa := by
      refine Nat.le_of_mul_le_mul_right ?_ positive
      rw [whole, cross]
      exact Nat.mul_le_mul_left _ (Nat.pow_le_pow_right (by decide) (first decimal same))
    refine ⟨_, ofParts?_fits (bound.trans_lt decimal.mantissa_lt) ((first decimal same).trans decimal.scale_le), ?_, first⟩
    exact value_of_cross positive rfl whole

theorem readNumeral_exact (small : numeral.digits < 2 ^ 96) (short : numeral.scale ≤ 28) :
    ∃ decimal, readNumeral numeral = some decimal ∧ decimal.value = numeral.value ∧ decimal.scale = numeral.scale := by
  obtain ⟨negative, digits, scale⟩ := numeral
  refine ⟨⟨negative, digits, scale, small, short⟩, ?_, ?_, rfl⟩
  · have made : ofParts? negative (roundDiv (digits * 10 ^ scale) (10 ^ scale)) scale =
        some ⟨negative, digits, scale, small, short⟩ := by
      rw [roundDiv_mul (by positivity)]
      exact ofParts?_fits small short
    cases scale with
    | zero => exact made
    | succ => simp only [readNumeral, keep, made]
  · rw [value_eq_fraction]
    unfold fraction Numeral.value Numeral.magnitude
    split <;> simp [neg_div]

theorem readNumeral_rounded (unfit : ¬Decimal.Holds numeral) (read : readNumeral numeral = some decimal) :
    (decimal.negative = numeral.negative ∨ decimal.mantissa = 0) ∧ (decimal.scale = 28 ∨ 2 ^ 96 ≤ 10 * decimal.mantissa + 9) ∧
      ((decimal.mantissa : ℚ) - 1) / 10 ^ decimal.scale ≤ numeral.magnitude := by
  obtain ⟨sign, shorter, digits, next⟩ := keep_some read
  have unit : 0 < 10 ^ numeral.scale := by positivity
  have below : decimal.scale < numeral.scale := by
    refine Nat.lt_of_le_of_ne shorter fun same => unfit ?_
    rw [same, roundDiv_mul unit] at digits
    exact ⟨digits ▸ decimal.mantissa_lt, same ▸ decimal.scale_le⟩
  obtain ⟨least, most⟩ := roundDiv_close unit (numeral.digits * 10 ^ decimal.scale)
  rw [← digits] at least most
  refine ⟨.inl sign, (next below).imp_right fun large => ?_, ?_⟩
  · obtain ⟨more, _⟩ := roundDiv_close unit (numeral.digits * 10 ^ (decimal.scale + 1))
    have larger := Nat.mul_le_mul_right (10 ^ numeral.scale) large
    have tenfold : numeral.digits * 10 ^ (decimal.scale + 1) = 10 * (numeral.digits * 10 ^ decimal.scale) := by ring
    rw [tenfold] at more larger
    have scaled : 2 ^ 97 * 10 ^ numeral.scale ≤ (20 * decimal.mantissa + 11) * 10 ^ numeral.scale := by linarith
    have bound := Nat.le_of_mul_le_mul_right scaled unit
    omega
  · have leastRat : 2 * ((decimal.mantissa : ℚ) * 10 ^ numeral.scale) ≤
        2 * (numeral.digits * 10 ^ decimal.scale) + 10 ^ numeral.scale := by exact_mod_cast least
    have unitRat : (0 : ℚ) < 10 ^ numeral.scale := by positivity
    unfold Numeral.magnitude
    rw [div_le_div_iff₀ (by positivity) unitRat]
    linarith

theorem readNumeral_overflow (large : 2 ^ 96 ≤ numeral.magnitude) : readNumeral numeral = none := by
  unfold Numeral.magnitude at large
  rw [le_div_iff₀ (by positivity)] at large
  have digits : 2 ^ 96 * 10 ^ numeral.scale ≤ numeral.digits := by exact_mod_cast large
  refine (keep_none_iff (by positivity)).mpr ?_
  omega

end Reference

@[reducible] def referenceCrates : ExternalCrates where
  uuidParse := Reference.uuid
  uuidToString := Reference.uuidText
  currencyKnown code :=
    ["USD", "EUR", "GBP", "JPY", "VND", "KRW", "CHF", "AUD", "CAD"].contains code
  decimalFromStr := Reference.fromStr
  checkedMul := Reference.mul
  checkedDiv := Reference.div
  fiat_known := by decide
  crypto_unknown := by decide
  fromStr_exact := by
    intro text numeral parsed small short
    simpa only [Reference.fromStr_plain parsed] using Reference.readNumeral_exact small short
  mul_exact _ _ := Reference.mul_exact
  mul_overflow _ _ := Reference.mul_overflow
  div_exact _ _ nonzero representable :=
    (Reference.div_exact nonzero representable).imp fun _ made => ⟨made.1, made.2.1, fun _ => made.2.2⟩

theorem referenceRange : @DecimalRange referenceCrates := by
  refine @DecimalRange.mk referenceCrates fun text numeral parsed large => ?_
  rw [show referenceCrates.decimalFromStr text = _ from Reference.fromStr_plain parsed, Reference.readNumeral_overflow large]

theorem referenceTexts : @DecimalTexts referenceCrates := by
  refine @DecimalTexts.mk referenceCrates (fun text numeral decimal parsed unfit read => ?_)
    fun text base exponent decimal parsed _ fits read => ?_
  · rw [show referenceCrates.decimalFromStr text = _ from Reference.fromStr_plain parsed] at read
    exact Reference.readNumeral_rounded unfit read
  · rw [show referenceCrates.decimalFromStr text = _ from congrArg (Option.bind · _) parsed] at read
    obtain ⟨_, exactRead, value, _⟩ := Reference.readNumeral_exact fits.1 fits.2
    rw [Option.bind_some, exactRead] at read
    cases read
    exact value

end Blazil.Common
