import Blazil.Foundation.Gregorian
import Blazil.Foundation.Numeral

/-! Timestamps and their text (`Display` and `unix_secs_to_ymd_hms` of
`core/common/src/timestamp.rs`) against the calendar. Differences of unsigned numbers wrap around,
and casts keep the low bits. -/

set_option autoImplicit false

namespace Blazil.Common

open Foundation

def u64Sub (left right : Nat) : Nat := (left + 2 ^ 64 - right) % 2 ^ 64

def i64AsU64 (number : Int) : Nat := (number % 2 ^ 64).toNat

def i64AsU32 (number : Int) : Nat := (number % 2 ^ 32).toNat

def u64AsU8 (number : Nat) : Nat := number % 2 ^ 8

/-- The year within 400 years of a day within 400 years. -/
def yearOfEra (doe : Nat) : Nat :=
  u64Sub (u64Sub doe (doe / 1460) + doe / 36524) (doe / 146096) / 365

def dayOfYear (doe yoe : Nat) : Nat := u64Sub doe (u64Sub (365 * yoe + yoe / 4) (yoe / 100))

def monthPrime (doy : Nat) : Nat := (5 * doy + 2) / 153

structure YmdHms where
  year : Nat
  month : Nat
  day : Nat
  hour : Nat
  minute : Nat
  second : Nat
deriving DecidableEq

def unixSecsToYmdHms (secs : Nat) : YmdHms :=
  let days := secs / 86400
  let timeOfDay := secs % 86400
  let h := u64AsU8 (timeOfDay / 3600)
  let m := u64AsU8 (timeOfDay % 3600 / 60)
  let s := u64AsU8 (timeOfDay % 60)
  let z : Int := days + 719468
  let era := (if z ≥ 0 then z else z - 146096).tdiv 146097
  let doe := i64AsU64 (z - era * 146097)
  let yoe := yearOfEra doe
  let y : Int := yoe + era * 400
  let doy := dayOfYear doe yoe
  let mp := monthPrime doy
  let d := u64AsU8 (u64Sub doy ((153 * mp + 2) / 5) + 1)
  let mo := u64AsU8 (if mp < 10 then mp + 3 else u64Sub mp 9)
  let yr := i64AsU32 (if mo ≤ 2 then y + 1 else y)
  ⟨yr, mo, d, h, m, s⟩

structure Timestamp where
  nanos : UInt64
deriving DecidableEq

namespace Timestamp

def secs (timestamp : Timestamp) : Nat := timestamp.nanos.toNat / 1000000000

def nanosPart (timestamp : Timestamp) : Nat := timestamp.nanos.toNat % 1000000000

def field (width number : Nat) : String := String.ofList (Numeral.padded width number)

def toText (timestamp : Timestamp) : String :=
  let fields := unixSecsToYmdHms timestamp.secs
  field 4 fields.year ++ "-" ++ field 2 fields.month ++ "-" ++ field 2 fields.day ++ "T" ++
    field 2 fields.hour ++ ":" ++ field 2 fields.minute ++ ":" ++ field 2 fields.second ++ "." ++
    field 9 timestamp.nanosPart ++ "Z"

end Timestamp

open Gregorian

theorem u64Sub_of_le {left right : Nat} (covered : right ≤ left) (small : left < 2 ^ 64) : u64Sub left right = left - right := by
  unfold u64Sub
  omega

def eraStart (yoe : Nat) : Nat := 365 * yoe + yoe / 4 - yoe / 100 + yoe / 400

def withoutLeapDays (doe : Nat) : Nat := doe - doe / 1460 + doe / 36524 - doe / 146096

theorem withoutLeapDays_mono {early late : Nat} (ordered : early ≤ late) : withoutLeapDays early ≤ withoutLeapDays late := by
  unfold withoutLeapDays
  omega

variable {doe number secs : Nat}

theorem yearOfEra_eq (small : doe < 146097) : yearOfEra doe = withoutLeapDays doe / 365 := by
  unfold yearOfEra withoutLeapDays
  rw [u64Sub_of_le (Nat.div_le_self _ _) (by omega), u64Sub_of_le (by omega) (by omega)]

theorem withoutLeapDays_ends : ∀ yoe < 400, withoutLeapDays (eraStart yoe) / 365 = yoe ∧
    withoutLeapDays (eraStart (yoe + 1) - 1) / 365 = yoe := by
  decide +kernel

/-- The division finds the year that the day lies in: it does so at both ends of each year,
and it is monotone. -/
theorem yearOfEra_spec (small : doe < 146097) : yearOfEra doe < 400 ∧
    eraStart (yearOfEra doe) ≤ doe ∧ doe < eraStart (yearOfEra doe + 1) := by
  have inside : ∃ yoe < 400, eraStart yoe ≤ doe ∧ doe < eraStart (yoe + 1) :=
    stretch_exists rfl small
  obtain ⟨yoe, year, low, high⟩ := inside
  have same : yearOfEra doe = yoe := by
    rw [yearOfEra_eq small]
    obtain ⟨atStart, atEnd⟩ := withoutLeapDays_ends yoe year
    apply Nat.le_antisymm
    · refine (Nat.div_le_div_right (withoutLeapDays_mono ?_)).trans_eq atEnd
      omega
    · exact atStart.symm.trans_le (Nat.div_le_div_right (withoutLeapDays_mono low))
  rw [same]
  exact ⟨year, low, high⟩

theorem dayOfYear_eq (small : doe < 146097) : dayOfYear doe (yearOfEra doe) = doe - eraStart (yearOfEra doe) := by
  obtain ⟨_, low, _⟩ := yearOfEra_spec small
  generalize yearOfEra doe = yoe at *
  unfold eraStart at low ⊢
  have whole : u64Sub (365 * yoe + yoe / 4) (yoe / 100) = 365 * yoe + yoe / 4 - yoe / 100 :=
    u64Sub_of_le (by omega) (by omega)
  rw [dayOfYear, whole, u64Sub_of_le (by omega) (by omega)]
  omega

def monthOf (doy : Nat) : Nat :=
  if monthPrime doy < 10 then monthPrime doy + 3 else monthPrime doy - 9

def dayOf (doy : Nat) : Nat := doy - (153 * monthPrime doy + 2) / 5 + 1

theorem monthOf_spec : ∀ doy < 366, ∀ leap, 2 < monthOf doy →
    monthOf doy ≤ 12 ∧ 1 ≤ dayOf doy ∧ dayOf doy ≤ daysInMonth leap (monthOf doy) ∧
      daysBeforeMonth leap (monthOf doy) + (dayOf doy - 1) = doy + daysBeforeMonth leap 3 := by
  decide +kernel

theorem monthOf_early : ∀ doy < 366, ∀ leap, doy < 365 ∨ leap = true → monthOf doy ≤ 2 →
    1 ≤ monthOf doy ∧ 1 ≤ dayOf doy ∧ dayOf doy ≤ daysInMonth leap (monthOf doy) ∧
      daysBeforeMonth leap (monthOf doy) + (dayOf doy - 1) + 306 = doy := by
  decide +kernel

theorem dayOf_bounds : ∀ doy < 366, (153 * monthPrime doy + 2) / 5 ≤ doy ∧ dayOf doy ≤ 31 ∧ monthOf doy ≤ 12 := by
  decide +kernel

theorem i64AsU64_natCast (small : number < 2 ^ 64) : i64AsU64 number = number := by
  unfold i64AsU64
  omega

theorem i64AsU32_natCast (small : number < 2 ^ 32) : i64AsU32 number = number := by
  unfold i64AsU32
  omega

theorem u64AsU8_of_lt (small : number < 2 ^ 8) : u64AsU8 number = number :=
  Nat.mod_eq_of_lt small

/-- The year that starts in March and the day in it, of a day counted from March of year 0. -/
def marchYear (z : Nat) : Nat := yearOfEra (z % 146097) + z / 146097 * 400

def marchDay (z : Nat) : Nat := z % 146097 - eraStart (yearOfEra (z % 146097))

theorem eraStart_succ : ∀ yoe < 400, eraStart (yoe + 1) = eraStart yoe + daysInYear (yoe + 1) := by
  decide +kernel

theorem isLeap_add_era (year era : Nat) : isLeap (year + era * 400) = isLeap year := by
  have four : (year + era * 400) % 4 = year % 4 := by omega
  have century : (year + era * 400) % 100 = year % 100 := by omega
  have whole : (year + era * 400) % 400 = year % 400 := by omega
  unfold isLeap
  rw [four, century, whole]

theorem daysBeforeYear_era {yoe : Nat} (year : yoe < 400) (era : Nat) :
    daysBeforeYear (yoe + era * 400 + 1) = 146097 * era + eraStart yoe + 366 := by
  have closed := daysBeforeYear_succ (yoe + era * 400)
  have four : (yoe + era * 400) / 4 = yoe / 4 + era * 100 := by omega
  have century : (yoe + era * 400) / 100 = yoe / 100 + era * 4 := by omega
  unfold eraStart
  omega

theorem marchDay_spec (z : Nat) : marchDay z < daysInYear (marchYear z + 1) ∧
    daysBeforeYear (marchYear z + 1) + marchDay z = z + 366 := by
  obtain ⟨year, _⟩ := yearOfEra_spec (Nat.mod_lt z (show 0 < 146097 by decide))
  have length := eraStart_succ _ year
  have before := daysBeforeYear_era year (z / 146097)
  have leap := isLeap_add_era (yearOfEra (z % 146097) + 1) (z / 146097)
  unfold marchDay marchYear
  unfold daysInYear at length ⊢
  rw [Nat.add_right_comm] at leap
  rw [leap]
  omega

theorem daysInYear_le (year : Nat) : daysInYear year ≤ 366 := by
  unfold daysInYear
  split <;> decide

/-- What is computed when no difference wraps around and no cast loses a bit. -/
theorem unixSecsToYmdHms_eq {z : Nat} (small : secs < 2 ^ 35) (shifted : secs / 86400 + 719468 = z) :
    unixSecsToYmdHms secs = ⟨if monthOf (marchDay z) ≤ 2 then marchYear z + 1 else marchYear z, monthOf (marchDay z),
        dayOf (marchDay z), secs % 86400 / 3600, secs % 86400 % 3600 / 60, secs % 86400 % 60⟩ := by
  have inEra : z % 146097 < 146097 := Nat.mod_lt _ (by decide)
  have year := (yearOfEra_spec inEra).1
  have inYear : marchDay z < 366 := (marchDay_spec z).1.trans_le (daysInYear_le _)
  obtain ⟨dayLow, dayHigh, monthHigh⟩ := dayOf_bounds _ inYear
  have days : ((secs / 86400 : Nat) : Int) + 719468 = (z : Int) := by omega
  have era : (if (z : Int) ≥ 0 then (z : Int) else z - 146096).tdiv 146097 =
      ((z / 146097 : Nat) : Int) := by
    exact Int.ofNat_tdiv z 146097
  have doe : i64AsU64 ((z : Int) - ((z / 146097 : Nat) : Int) * 146097) = z % 146097 := by
    rw [show (z : Int) - ((z / 146097 : Nat) : Int) * 146097 = ((z % 146097 : Nat) : Int) by omega]
    exact i64AsU64_natCast (by omega)
  have doy : dayOfYear (z % 146097) (yearOfEra (z % 146097)) = marchDay z := dayOfYear_eq inEra
  have month : u64AsU8 (if monthPrime (marchDay z) < 10 then monthPrime (marchDay z) + 3
      else u64Sub (monthPrime (marchDay z)) 9) = monthOf (marchDay z) := by
    have late : u64Sub (monthPrime (marchDay z)) 9 = monthPrime (marchDay z) - 9 ∨ monthPrime (marchDay z) < 10 := by
      rcases Nat.lt_or_ge (monthPrime (marchDay z)) 10 with early | _
      · exact .inr early
      · exact .inl (u64Sub_of_le (by omega) (by unfold monthPrime; omega))
    have same : (if monthPrime (marchDay z) < 10 then monthPrime (marchDay z) + 3
        else u64Sub (monthPrime (marchDay z)) 9) = monthOf (marchDay z) := by
      unfold monthOf
      split
      · rfl
      · next notEarly => exact late.resolve_right notEarly
    rw [same]
    exact u64AsU8_of_lt (Nat.lt_of_le_of_lt monthHigh (by decide))
  have day : u64AsU8 (u64Sub (marchDay z) ((153 * monthPrime (marchDay z) + 2) / 5) + 1) = dayOf (marchDay z) := by
    rw [u64Sub_of_le dayLow (by omega)]
    exact u64AsU8_of_lt (Nat.lt_of_le_of_lt dayHigh (by decide))
  have years : (yearOfEra (z % 146097) : Int) + ((z / 146097 : Nat) : Int) * 400 = (marchYear z : Int) := by
    unfold marchYear
    omega
  have bound : marchYear z + 1 < 2 ^ 32 := by
    omega
  have civilYear : i64AsU32 (if monthOf (marchDay z) ≤ 2 then (marchYear z : Int) + 1
      else marchYear z) = if monthOf (marchDay z) ≤ 2 then marchYear z + 1 else marchYear z := by
    split
    · exact i64AsU32_natCast bound
    · exact i64AsU32_natCast (Nat.lt_of_succ_lt bound)
  unfold unixSecsToYmdHms
  dsimp only
  rw [days, era, doe, doy, month, day, years, civilYear, u64AsU8_of_lt (by omega),
    u64AsU8_of_lt (by omega), u64AsU8_of_lt (by omega)]

def epoch : CivilTime := ⟨⟨1970, 1, 1, isDate_newYear 1970⟩, 0, 0, 0, CivilTime.startOfDay⟩

theorem seconds_epoch : epoch.seconds = 86400 * 719528 := by
  have before : daysBeforeYear 1970 + 1969 / 100 = 365 * 1970 + 1969 / 4 + 1969 / 400 + 1 :=
    daysBeforeYear_succ 1969
  simp only [CivilTime.seconds, epoch, Date.ordinal, daysBeforeMonth]
  omega

theorem daysBeforeMarch (year : Nat) : daysBeforeMonth (isLeap year) 3 + 306 = daysInYear year := by
  unfold daysInYear
  cases isLeap year <;> decide

theorem exists_date (z : Nat) : ∃ date : Date, date.ordinal = z + 60 ∧
    date.year = (if monthOf (marchDay z) ≤ 2 then marchYear z + 1 else marchYear z) ∧
    date.month = monthOf (marchDay z) ∧ date.day = dayOf (marchDay z) := by
  obtain ⟨inYear, total⟩ := marchDay_spec z
  have inside : marchDay z < 366 := inYear.trans_le (daysInYear_le _)
  have monthHigh := (dayOf_bounds _ inside).2.2
  by_cases early : monthOf (marchDay z) ≤ 2
  · have leap : marchDay z < 365 ∨ isLeap (marchYear z + 1) = true := by
      unfold daysInYear at inYear
      split at inYear
      · next leap => exact .inr leap
      · exact .inl inYear
    obtain ⟨monthLow, dayLow, dayHigh, _⟩ := monthOf_early _ inside _ leap early
    refine ⟨⟨marchYear z + 1, monthOf (marchDay z), dayOf (marchDay z), monthLow, monthHigh,
      dayLow, dayHigh⟩, ?_, (if_pos early).symm, rfl, rfl⟩
    simp only [Date.ordinal]
    omega
  · obtain ⟨_, dayLow, dayHigh, _⟩ :=
      monthOf_spec _ inside (isLeap (marchYear z)) (Nat.lt_of_not_le early)
    have march := daysBeforeMarch (marchYear z)
    refine ⟨⟨marchYear z, monthOf (marchDay z), dayOf (marchDay z), by omega, monthHigh, dayLow,
      dayHigh⟩, ?_, (if_neg early).symm, rfl, rfl⟩
    simp only [Date.ordinal]
    rw [daysBeforeYear] at total
    omega

def YmdHms.ofTime (time : CivilTime) : YmdHms :=
  ⟨time.date.year, time.date.month, time.date.day, time.hour, time.minute, time.second⟩

theorem unixSecsToYmdHms_tick (small : secs < 2 ^ 35) : unixSecsToYmdHms secs = .ofTime (CivilTime.tick^[secs] epoch) := by
  obtain ⟨date, number, year, month, day⟩ := exists_date (secs / 86400 + 719468)
  let time : CivilTime := ⟨date, secs % 86400 / 3600, secs % 86400 % 3600 / 60, secs % 86400 % 60, by omega, by omega, by omega⟩
  have later : time.seconds = epoch.seconds + secs := by
    rw [seconds_epoch]
    simp only [CivilTime.seconds, time, number]
    omega
  rw [CivilTime.iterate_tick later, unixSecsToYmdHms_eq small rfl]
  simp only [YmdHms.ofTime, time, year, month, day]

theorem YmdHms.ofTime_injective : Function.Injective YmdHms.ofTime := by
  intro first second same
  simp only [YmdHms.ofTime, YmdHms.mk.injEq] at same
  obtain ⟨year, month, day, hour, minute, second⟩ := same
  exact CivilTime.ext (Date.ext year month day) hour minute second

structure YmdHms.Fits (fields : YmdHms) : Prop where
  year : fields.year < 10 ^ 4
  month : fields.month < 10 ^ 2
  day : fields.day < 10 ^ 2
  hour : fields.hour < 10 ^ 2
  minute : fields.minute < 10 ^ 2
  second : fields.second < 10 ^ 2

theorem unixSecsToYmdHms_fits (small : secs < 2 ^ 35) : (unixSecsToYmdHms secs).Fits := by
  have year := (yearOfEra_spec (Nat.mod_lt (secs / 86400 + 719468) (show 0 < 146097 by decide))).1
  have inside : marchDay (secs / 86400 + 719468) < 366 :=
    (marchDay_spec _).1.trans_le (daysInYear_le _)
  obtain ⟨_, dayHigh, monthHigh⟩ := dayOf_bounds _ inside
  rw [unixSecsToYmdHms_eq small rfl]
  refine ⟨?_, Nat.lt_of_le_of_lt monthHigh (by decide), Nat.lt_of_le_of_lt dayHigh (by decide),
    ?_, ?_, ?_⟩
  · simp only [marchYear]
    split <;> omega
  all_goals
    dsimp only
    omega

namespace Timestamp

def chars (fields : YmdHms) (nanos : Nat) : List Char :=
  Numeral.padded 4 fields.year ++ '-' :: (Numeral.padded 2 fields.month ++
    '-' :: (Numeral.padded 2 fields.day ++ 'T' :: (Numeral.padded 2 fields.hour ++
      ':' :: (Numeral.padded 2 fields.minute ++ ':' :: (Numeral.padded 2 fields.second ++
        '.' :: (Numeral.padded 9 nanos ++ ['Z']))))))

theorem toList_toText (timestamp : Timestamp) :
    timestamp.toText.toList = chars (unixSecsToYmdHms timestamp.secs) timestamp.nanosPart := by
  simp only [toText, field, chars, String.toList_append, String.toList_ofList, List.append_assoc]
  rfl

theorem chars_inj {first second : YmdHms} {nanos other : Nat} (fits : first.Fits)
    (otherFits : second.Fits) (same : chars first nanos = chars second other) : first = second := by
  obtain ⟨year, same⟩ := Numeral.padded_append_inj (by decide) fits.year otherFits.year same
  obtain ⟨month, same⟩ := Numeral.padded_append_inj (by decide) fits.month otherFits.month
    (List.cons.inj same).2
  obtain ⟨day, same⟩ := Numeral.padded_append_inj (by decide) fits.day otherFits.day
    (List.cons.inj same).2
  obtain ⟨hour, same⟩ := Numeral.padded_append_inj (by decide) fits.hour otherFits.hour
    (List.cons.inj same).2
  obtain ⟨minute, same⟩ := Numeral.padded_append_inj (by decide) fits.minute otherFits.minute
    (List.cons.inj same).2
  obtain ⟨secondField, _⟩ := Numeral.padded_append_inj (by decide) fits.second otherFits.second
    (List.cons.inj same).2
  cases first
  cases second
  exact YmdHms.mk.injEq .. ▸ ⟨year, month, day, hour, minute, secondField⟩

theorem secs_lt (timestamp : Timestamp) : timestamp.secs < 2 ^ 35 := by
  have bound := timestamp.nanos.toNat_lt
  unfold secs
  omega

/-- The text of a timestamp shows the date and the time of day that its seconds lead to from
the start of 1970, and timestamps in different seconds have different texts. -/
theorem toText_shows_civil_time (timestamp : Timestamp) :
    unixSecsToYmdHms timestamp.secs = .ofTime (CivilTime.tick^[timestamp.secs] epoch) ∧
    IsDate (unixSecsToYmdHms timestamp.secs).year (unixSecsToYmdHms timestamp.secs).month (unixSecsToYmdHms timestamp.secs).day ∧
    timestamp.toText.toList = chars (unixSecsToYmdHms timestamp.secs) (timestamp.nanos.toNat % 1000000000) ∧
    ∀ other : Timestamp, other.secs ≠ timestamp.secs → other.toText ≠ timestamp.toText := by
  have civil := unixSecsToYmdHms_tick timestamp.secs_lt
  refine ⟨civil, ?_, timestamp.toList_toText, ?_⟩
  · rw [civil]
    exact (CivilTime.tick^[timestamp.secs] epoch).date.valid
  · intro other different text
    have fields : unixSecsToYmdHms other.secs = unixSecsToYmdHms timestamp.secs := by
      apply chars_inj (unixSecsToYmdHms_fits other.secs_lt) (unixSecsToYmdHms_fits timestamp.secs_lt)
      rw [← toList_toText, ← toList_toText, text]
    rw [civil, unixSecsToYmdHms_tick other.secs_lt] at fields
    have seconds := congrArg CivilTime.seconds (YmdHms.ofTime_injective fields)
    rw [CivilTime.seconds_iterate, CivilTime.seconds_iterate] at seconds
    exact different (Nat.add_left_cancel seconds)

example : Timestamp.toText ⟨951782400000000001⟩ = "2000-02-29T00:00:00.000000001Z" := by
  decide

end Timestamp

end Blazil.Common
