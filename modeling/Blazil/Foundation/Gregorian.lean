import Mathlib.Logic.Function.Iterate

/-! The proleptic Gregorian calendar and the time of day, as one day follows another and one
second another. A date and a time that do not exist cannot be written down. -/

set_option autoImplicit false

namespace Foundation

section Counting

variable {State : Type} {next : State → State} {count : State → Nat}

theorem count_iterate (counts : ∀ state, count (next state) = count state + 1) (start : State)
    (steps : Nat) : count (next^[steps] start) = count start + steps := by
  induction steps with
  | zero => rfl
  | succ _ ih => rw [Function.iterate_succ_apply', counts, ih, Nat.add_assoc]

/-- A state that is counted by one per step is the one that as many steps lead to. -/
theorem iterate_eq_of_count (injective : Function.Injective count) (counts : ∀ state, count (next state) = count state + 1)
    {start state : State} {steps : Nat} (counted : count state = count start + steps) : next^[steps] start = state :=
  injective ((count_iterate counts start steps).trans counted.symm)

end Counting

section Stretches

variable {start length : Nat → Nat} {low first second place other : Nat}

section

variable (adjacent : ∀ index, low ≤ index → start (index + 1) = start index + length index) (firstLow : low ≤ first)
include adjacent firstLow

theorem stretch_ordered (before : first < second) : start first + length first ≤ start second := by
  induction second with
  | zero => cases before
  | succ second ih =>
    rcases Nat.lt_succ_iff_lt_or_eq.mp before with earlier | rfl
    · rw [adjacent second (by omega)]
      exact Nat.le_add_right_of_le (ih earlier)
    · exact Nat.le_of_eq (adjacent first firstLow).symm

theorem stretch_unique (secondLow : low ≤ second) (inside : place < length first) (otherInside : other < length second)
    (same : start first + place = start second + other) : first = second := by
  rcases Nat.lt_trichotomy first second with before | equal | after
  · have := stretch_ordered adjacent firstLow before
    omega
  · exact equal
  · have := stretch_ordered adjacent secondLow after
    omega

end

theorem stretch_exists (zero : start 0 = 0) {count : Nat} (before : place < start count) :
    ∃ index < count, start index ≤ place ∧ place < start (index + 1) := by
  induction count with
  | zero =>
    rw [zero] at before
    cases before
  | succ count ih =>
    by_cases earlier : place < start count
    · obtain ⟨index, small, inside⟩ := ih earlier
      exact ⟨index, Nat.lt_succ_of_lt small, inside⟩
    · exact ⟨count, Nat.lt_succ_self count, Nat.le_of_not_lt earlier, before⟩

end Stretches

namespace Gregorian

def isLeap (year : Nat) : Bool := year % 4 = 0 && (year % 100 ≠ 0 || year % 400 = 0)

def daysInMonth (leap : Bool) (month : Nat) : Nat :=
  match month with
  | 2 => if leap then 29 else 28
  | 4 | 6 | 9 | 11 => 30
  | _ => 31

def daysInYear (year : Nat) : Nat := if isLeap year then 366 else 365

def IsDate (year month day : Nat) : Prop :=
  1 ≤ month ∧ month ≤ 12 ∧ 1 ≤ day ∧ day ≤ daysInMonth (isLeap year) month

theorem daysInMonth_pos (leap : Bool) (month : Nat) : 1 ≤ daysInMonth leap month := by
  unfold daysInMonth
  split
  · split <;> decide
  all_goals decide

variable {year month day : Nat}

theorem IsDate.nextDay (valid : IsDate year month day)
    (inside : day < daysInMonth (isLeap year) month) : IsDate year month (day + 1) :=
  ⟨valid.1, valid.2.1, Nat.le_add_left 1 day, inside⟩

theorem IsDate.nextMonth (valid : IsDate year month day) (early : month < 12) : IsDate year (month + 1) 1 :=
  ⟨Nat.le_succ_of_le valid.1, early, Nat.le_refl 1, daysInMonth_pos _ _⟩

theorem isDate_newYear (year : Nat) : IsDate year 1 1 :=
  ⟨Nat.le_refl 1, by decide, Nat.le_refl 1, daysInMonth_pos _ _⟩

@[ext] structure Date where
  year : Nat
  month : Nat
  day : Nat
  valid : IsDate year month day

namespace Date

def next (date : Date) : Date :=
  if inside : date.day < daysInMonth (isLeap date.year) date.month then
    ⟨date.year, date.month, date.day + 1, date.valid.nextDay inside⟩
  else if early : date.month < 12 then
    ⟨date.year, date.month + 1, 1, date.valid.nextMonth early⟩
  else ⟨date.year + 1, 1, 1, isDate_newYear _⟩

end Date

def daysBeforeYear : Nat → Nat
  | 0 => 0
  | year + 1 => daysBeforeYear year + daysInYear year

def daysBeforeMonth (leap : Bool) : Nat → Nat
  | 0 | 1 => 0
  | month + 2 => daysBeforeMonth leap (month + 1) + daysInMonth leap (month + 1)

def Date.ordinal (date : Date) : Nat :=
  daysBeforeYear date.year + (daysBeforeMonth (isLeap date.year) date.month + (date.day - 1))

theorem daysBeforeMonth_succ (leap : Bool) (positive : 1 ≤ month) :
    daysBeforeMonth leap (month + 1) = daysBeforeMonth leap month + daysInMonth leap month := by
  cases month with
  | zero => cases positive
  | succ => rfl

theorem daysBeforeMonth_thirteen (year : Nat) : daysBeforeMonth (isLeap year) 13 = daysInYear year := by
  unfold daysInYear
  cases isLeap year <;> decide

theorem daysBeforeMonth_add_le (year : Nat) (positive : 1 ≤ month) (small : month ≤ 12) :
    daysBeforeMonth (isLeap year) month + daysInMonth (isLeap year) month ≤ daysInYear year := by
  rw [← daysBeforeMonth_thirteen]
  exact stretch_ordered (fun _ => daysBeforeMonth_succ _) positive (Nat.lt_succ_of_le small)

namespace Date

theorem ordinal_next (date : Date) : date.next.ordinal = date.ordinal + 1 := by
  obtain ⟨monthLow, _⟩ := date.valid
  unfold next
  split
  · simp only [ordinal]
    omega
  · next last =>
    have whole : date.day = daysInMonth (isLeap date.year) date.month := by omega
    split
    · simp only [ordinal, daysBeforeMonth_succ (isLeap date.year) monthLow]
      omega
    · next late =>
      have december : date.month = 12 := by omega
      have year := daysBeforeMonth_succ (isLeap date.year) monthLow
      rw [december, daysBeforeMonth_thirteen] at year
      simp only [ordinal, daysBeforeYear, daysBeforeMonth]
      rw [december] at whole ⊢
      omega

theorem ordinal_injective : Function.Injective ordinal := by
  intro first second same
  unfold ordinal at same
  obtain ⟨firstLow, firstHigh, _, firstLast⟩ := first.valid
  obtain ⟨secondLow, secondHigh, _⟩ := second.valid
  have firstInside := daysBeforeMonth_add_le first.year firstLow firstHigh
  have secondInside := daysBeforeMonth_add_le second.year secondLow secondHigh
  have year : first.year = second.year :=
    stretch_unique (fun _ _ => rfl) (Nat.zero_le _) (Nat.zero_le _) (by omega) (by omega) same
  rw [year, Nat.add_left_cancel_iff] at same
  rw [year] at firstLast
  have month : first.month = second.month :=
    stretch_unique (fun _ => daysBeforeMonth_succ (isLeap second.year)) firstLow secondLow (by omega) (by omega) same
  rw [month, Nat.add_left_cancel_iff] at same
  exact Date.ext year month (by omega)

end Date

theorem succ_div_eq (year count : Nat) : (year + 1) / count = year / count + if (year + 1) % count = 0 then 1 else 0 := by
  rw [Nat.succ_div]
  simp only [Nat.dvd_iff_mod_eq_zero]

/-- Leap years are every fourth year, except for three of four full centuries. -/
theorem daysInYear_eq (year : Nat) : daysInYear year + (if year % 100 = 0 then 1 else 0) =
    365 + (if year % 4 = 0 then 1 else 0) + if year % 400 = 0 then 1 else 0 := by
  have century : year % 400 = 0 → year % 100 = 0 := by omega
  have four : year % 100 = 0 → year % 4 = 0 := by omega
  unfold daysInYear isLeap
  by_cases whole : year % 400 = 0
  · simp [whole, century whole, four (century whole)]
  · by_cases hundred : year % 100 = 0
    · simp [whole, hundred, four hundred]
    · by_cases fourth : year % 4 = 0 <;> simp [whole, hundred, fourth]

theorem daysBeforeYear_succ (year : Nat) :
    daysBeforeYear (year + 1) + year / 100 = 365 * (year + 1) + year / 4 + year / 400 + 1 := by
  induction year with
  | zero => rfl
  | succ year =>
    have length := daysInYear_eq (year + 1)
    rw [daysBeforeYear, succ_div_eq year 100, succ_div_eq year 4, succ_div_eq year 400]
    omega

@[ext] structure CivilTime where
  date : Date
  hour : Nat
  minute : Nat
  second : Nat
  valid : hour < 24 ∧ minute < 60 ∧ second < 60

namespace CivilTime

theorem startOfDay : 0 < 24 ∧ 0 < 60 ∧ 0 < 60 := by decide

def tick (time : CivilTime) : CivilTime :=
  if second : time.second + 1 < 60 then
    ⟨time.date, time.hour, time.minute, time.second + 1, time.valid.1, time.valid.2.1, second⟩
  else if minute : time.minute + 1 < 60 then
    ⟨time.date, time.hour, time.minute + 1, 0, time.valid.1, minute, startOfDay.2.2⟩
  else if hour : time.hour + 1 < 24 then
    ⟨time.date, time.hour + 1, 0, 0, hour, startOfDay.2⟩
  else ⟨time.date.next, 0, 0, 0, startOfDay⟩

def seconds (time : CivilTime) : Nat :=
  86400 * time.date.ordinal + (3600 * time.hour + 60 * time.minute + time.second)

theorem seconds_tick (time : CivilTime) : time.tick.seconds = time.seconds + 1 := by
  obtain ⟨_, _⟩ := time.valid
  unfold tick
  split
  · simp only [seconds]
    omega
  · split
    · simp only [seconds]
      omega
    · split
      · simp only [seconds]
        omega
      · simp only [seconds, Date.ordinal_next]
        omega

theorem seconds_injective : Function.Injective seconds := by
  intro first second same
  obtain ⟨_, _⟩ := first.valid
  obtain ⟨_, _⟩ := second.valid
  unfold seconds at same
  refine CivilTime.ext (Date.ordinal_injective ?_) ?_ ?_ ?_ <;> omega

theorem seconds_iterate (start : CivilTime) (ticks : Nat) : (tick^[ticks] start).seconds = start.seconds + ticks :=
  count_iterate seconds_tick start ticks

/-- A time is the one that as many ticks lead to as it has seconds. -/
theorem iterate_tick {start time : CivilTime} {ticks : Nat}
    (later : time.seconds = start.seconds + ticks) : tick^[ticks] start = time :=
  iterate_eq_of_count seconds_injective seconds_tick later

end CivilTime

end Gregorian

end Foundation
