import Mathlib.Data.Nat.Notation
import Mathlib.Tactic.Common
import Mathlib.Tactic.IntervalCases
import Mathlib.Algebra.Order.Ring.Int

/-! # Dates and times

Civil dates and times of the proleptic Gregorian calendar with microseconds,
their text form and its parser, as Python's `datetime` has them. An instant is the
number of microseconds since the start of 1 January of year 1 less one day.
-/

namespace Timestamp

def isLeap (year : Nat) : Bool := year % 4 == 0 && (year % 100 != 0 || year % 400 == 0)

def daysInMonth (year month : Nat) : Nat :=
  match month with
  | 2 => if isLeap year then 29 else 28
  | 4 | 6 | 9 | 11 => 30
  | _ => 31

def daysBeforeYear (year : Nat) : Nat :=
  (year - 1) * 365 + (year - 1) / 4 - (year - 1) / 100 + (year - 1) / 400

def daysBeforeMonth (year month : Nat) : Nat :=
  ((List.range' 1 (month - 1)).map (daysInMonth year)).sum

/-- A date and a time of day without a time zone, within the years that can be
written with four digits. -/
structure DateTime where
  year : Nat
  month : Nat
  day : Nat
  hour : Nat
  minute : Nat
  second : Nat
  microsecond : Nat
  validDate : (1 ≤ year ∧ year ≤ 9999) ∧ (1 ≤ month ∧ month ≤ 12) ∧
    1 ≤ day ∧ day ≤ daysInMonth year month
  validTime : hour < 24 ∧ minute < 60 ∧ second < 60 ∧ microsecond < 1000000
  deriving DecidableEq

/-- The day number of a date; 1 January of year 1 is day 1. -/
def DateTime.ordinal (moment : DateTime) : Nat :=
  daysBeforeYear moment.year + daysBeforeMonth moment.year moment.month + moment.day

/-- Microseconds on the time line of the date's own zone. -/
def DateTime.micros (moment : DateTime) : Nat :=
  (((moment.ordinal * 24 + moment.hour) * 60 + moment.minute) * 60 + moment.second) * 1000000 +
    moment.microsecond

/-- The date of a day number. -/
def dateOfOrdinal (ordinal : Nat) : Option (Nat × Nat × Nat) := do
  let guess := ordinal * 400 / 146097
  let year ← [guess, guess + 1, guess + 2].find? fun year =>
    1 ≤ year ∧ daysBeforeYear year < ordinal ∧ ordinal ≤ daysBeforeYear (year + 1)
  let dayOfYear := ordinal - daysBeforeYear year
  let month ← (List.range' 1 12).find? fun month =>
    daysBeforeMonth year month < dayOfYear ∧
      dayOfYear ≤ daysBeforeMonth year month + daysInMonth year month
  some (year, month, dayOfYear - daysBeforeMonth year month)

/-- The date and time with the given fields, if there is one. -/
def DateTime.ofFields? (year month day hour minute second microsecond : Nat) : Option DateTime :=
  if validDate : (1 ≤ year ∧ year ≤ 9999) ∧ (1 ≤ month ∧ month ≤ 12) ∧
      1 ≤ day ∧ day ≤ daysInMonth year month then
    if validTime : hour < 24 ∧ minute < 60 ∧ second < 60 ∧ microsecond < 1000000 then
      some { year, month, day, hour, minute, second, microsecond, validDate, validTime }
    else none
  else none

/-- The date and time at a number of microseconds, if it is in range. -/
def DateTime.ofMicros? (micros : Int) : Option DateTime :=
  match micros with
  | .ofNat micros => do
      let (year, month, day) ← dateOfOrdinal (micros / 86400000000)
      let rest := micros % 86400000000
      DateTime.ofFields? year month day (rest / 3600000000) (rest / 60000000 % 60)
        (rest / 1000000 % 60) (rest % 1000000)
  | .negSucc _ => none

/-- `datetime + timedelta`; out of range is an `OverflowError`. -/
def DateTime.addMicros? (moment : DateTime) (delta : Int) : Option DateTime :=
  DateTime.ofMicros? (moment.micros + delta)

theorem DateTime.ofFields?_self (moment : DateTime) :
    DateTime.ofFields? moment.year moment.month moment.day moment.hour moment.minute moment.second
      moment.microsecond = some moment := by
  rw [DateTime.ofFields?, dif_pos moment.validDate, dif_pos moment.validTime]

theorem DateTime.ofFields?_eq_some {year month day hour minute second microsecond : Nat}
    {moment : DateTime}
    (built : DateTime.ofFields? year month day hour minute second microsecond = some moment) :
    moment.year = year ∧ moment.month = month ∧ moment.day = day ∧ moment.hour = hour ∧
      moment.minute = minute ∧ moment.second = second ∧ moment.microsecond = microsecond := by
  unfold DateTime.ofFields? at built
  split at built
  · split at built
    · cases built
      exact ⟨rfl, rfl, rfl, rfl, rfl, rfl, rfl⟩
    · cases built
  · cases built

theorem dateOfOrdinal_eq_some {ordinal year month day : Nat}
    (found : dateOfOrdinal ordinal = some (year, month, day)) :
    daysBeforeYear year + daysBeforeMonth year month + day = ordinal := by
  simp only [dateOfOrdinal, Option.bind_eq_bind, Option.bind_eq_some_iff, Option.some.injEq,
    Prod.mk.injEq] at found
  obtain ⟨_, foundYear, _, foundMonth, rfl, rfl, rfl⟩ := found
  have inYear := List.find?_some foundYear
  have inMonth := List.find?_some foundMonth
  simp only [decide_eq_true_eq] at inYear inMonth
  omega

/-- The date and time found for a number of microseconds is at that number. -/
theorem DateTime.micros_of_ofMicros? {micros : Int} {moment : DateTime}
    (found : DateTime.ofMicros? micros = some moment) : (moment.micros : Int) = micros := by
  cases micros with
  | negSucc count => cases found
  | ofNat count =>
      simp only [DateTime.ofMicros?, Option.bind_eq_bind, Option.bind_eq_some_iff, Prod.exists]
        at found
      obtain ⟨year, month, day, date, fields⟩ := found
      have days := dateOfOrdinal_eq_some date
      obtain ⟨rfl, rfl, rfl, hours, minutes, seconds, rest⟩ := DateTime.ofFields?_eq_some fields
      rw [DateTime.micros, DateTime.ordinal, days, hours, minutes, seconds, rest]
      have whole : ((count / 86400000000 * 24 + count % 86400000000 / 3600000000) * 60 +
          count % 86400000000 / 60000000 % 60) * 60 + count % 86400000000 / 1000000 % 60 =
          count / 1000000 := by omega
      rw [whole]
      simp only [Int.ofNat_eq_natCast, Nat.cast_inj]
      omega

/-! ## The ends of the calendar -/

/-- The least and the greatest instant of the calendar. -/
def minInstant : Int := 86400000000

def maxInstant : Int := 315537983999999999

theorem daysBeforeMonth_add_le (year : Nat) {month : Nat} (valid : 1 ≤ month ∧ month ≤ 12) :
    daysBeforeMonth year month + daysInMonth year month ≤ 365 + if isLeap year then 1 else 0 := by
  obtain ⟨low, high⟩ := valid
  cases leap : isLeap year <;> interval_cases month <;>
    simp [daysBeforeMonth, daysInMonth, leap, List.range']

theorem DateTime.ordinal_bounds (moment : DateTime) :
    1 ≤ moment.ordinal ∧ moment.ordinal ≤ 3652059 := by
  obtain ⟨yearValid, monthValid, dayLow, dayHigh⟩ := moment.validDate
  have within := daysBeforeMonth_add_le moment.year monthValid
  have lastYear : moment.year = 9999 → isLeap moment.year = false := by
    intro same
    rw [same]
    decide
  unfold DateTime.ordinal daysBeforeYear
  by_cases last : moment.year = 9999
  · rw [lastYear last] at within
    simp only [Bool.false_eq_true, if_false] at within
    omega
  · split at within <;> omega

/-- Every date and time is an instant of the calendar. -/
theorem DateTime.micros_bounds (moment : DateTime) :
    minInstant ≤ moment.micros ∧ (moment.micros : Int) ≤ maxInstant := by
  have days := moment.ordinal_bounds
  have clock := moment.validTime
  unfold minInstant maxInstant DateTime.micros
  omega

end Timestamp
