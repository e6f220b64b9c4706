/-!
# The calendar

Dates of the proleptic Gregorian calendar, with a year 0 and negative years before it, and the
number of days between a date and the first of January 1970. The calendar spans the years −262143 to
262142 (`Date.Valid`).

`Date.dayNumber` numbers the days: it adds up whole years (`daysBeforeYear`), whole months and days.
`Date.ofDayNumber` finds the date of a numbered day. It guesses the year by the mean length of one,
and the guess is never more than one year off:

> `daysBeforeYear_yearOf_le` and `lt_daysBeforeYear_yearOf`: the day falls in the year that is
> found.

Within the year the month is found by counting off the lengths of months (`monthOf_spec`).
-/

namespace EgressWatch.Time

/-- A day by its year, its month from 1 to 12 and its place in the month from 1. -/
structure Date where
  year : Int
  month : Nat
  day : Nat
  deriving DecidableEq, Repr

/-- Every fourth year has a 29th of February, but of the full centuries only every fourth. -/
def isLeap (year : Int) : Bool := year % 4 == 0 && (year % 100 != 0 || year % 400 == 0)

/-- The days between the first of January of the year 0 and that of another year. -/
def daysBeforeYear (year : Int) : Int :=
  365 * year + (year + 3) / 4 - (year + 99) / 100 + (year + 399) / 400

/-- The first of January 1970, counted from that of the year 0. -/
def epochDay : Int := 719528

/-- The lengths of the months of a year, January first. -/
def monthLengths (leap : Bool) : List Nat :=
  [31, if leap then 29 else 28, 31, 30, 31, 30, 31, 31, 30, 31, 30, 31]

/-- The length of a month, and 0 for what is no month. -/
def monthLength (leap : Bool) : Nat → Nat
  | 0 => 0
  | month + 1 => (monthLengths leap).getD month 0

/-- The days of some months together. -/
def totalDays : List Nat → Nat
  | [] => 0
  | length :: rest => length + totalDays rest

/-- The days of a year that pass before the first of a month. -/
def daysBeforeMonth (leap : Bool) (month : Nat) : Nat :=
  totalDays ((monthLengths leap).take (month - 1))

/-- Finds the month and the place in it, both from 1, of the day that has `n` days of the given
months before it. -/
def monthOf : List Nat → Nat → Nat × Nat
  | [], n => (1, n + 1)
  | length :: rest, n =>
    if n < length then (1, n + 1)
    else
      let (month, day) := monthOf rest (n - length)
      (month + 1, day)

/-- The year in which a day lies, counted from the first day of the year 0. The mean year of the
400-year cycle gives a year that is right or off by one. -/
def yearOf (n : Int) : Int :=
  let guess := 400 * n / 146097
  if daysBeforeYear (guess + 1) ≤ n then guess + 1
  else if n < daysBeforeYear guess then guess - 1
  else guess

/-- The year of a day does not start after it. -/
theorem daysBeforeYear_yearOf_le (n : Int) : daysBeforeYear (yearOf n) ≤ n := by
  unfold yearOf daysBeforeYear
  grind

/-- The year after that of a day starts after it. -/
theorem lt_daysBeforeYear_yearOf (n : Int) : n < daysBeforeYear (yearOf n + 1) := by
  unfold yearOf daysBeforeYear
  grind

/-- A day within the given months is found in one of them, at a place that the month has, and the
months before it and the place add up to the day. -/
theorem monthOf_spec (ls : List Nat) (n : Nat) (h : n < totalDays ls) :
    1 ≤ (monthOf ls n).1 ∧ (monthOf ls n).1 ≤ ls.length ∧ 1 ≤ (monthOf ls n).2 ∧
      (monthOf ls n).2 ≤ ls.getD ((monthOf ls n).1 - 1) 0 ∧
      totalDays (ls.take ((monthOf ls n).1 - 1)) + (monthOf ls n).2 = n + 1 := by
  induction ls generalizing n with
  | nil => simp [totalDays] at h
  | cons l ls ih =>
    unfold monthOf
    split
    · simp [totalDays]; omega
    · obtain ⟨h1, h2, h3, h4, h5⟩ := ih (n - l) (by simp [totalDays] at h; omega)
      obtain ⟨k, hk⟩ : ∃ k, (monthOf ls (n - l)).1 = k + 1 := ⟨_, (Nat.sub_add_cancel h1).symm⟩
      simp_all [totalDays]
      omega

namespace Date

/-- The first year of the calendar. -/
def firstYear : Int := -262143

/-- The last year of the calendar. -/
def lastYear : Int := 262142

/-- The date exists, in a year of the calendar. -/
def Valid (d : Date) : Prop :=
  firstYear ≤ d.year ∧ d.year ≤ lastYear ∧ 1 ≤ d.month ∧ d.month ≤ 12 ∧ 1 ≤ d.day ∧
    d.day ≤ monthLength (isLeap d.year) d.month

instance (d : Date) : Decidable d.Valid := by unfold Valid; infer_instance

/-- The days from the first of January 1970 to a date. -/
def dayNumber (d : Date) : Int :=
  daysBeforeYear d.year + daysBeforeMonth (isLeap d.year) d.month + (d.day - 1 : Int) - epochDay

/-- The date of a day that is numbered from the first of January 1970. -/
def ofDayNumber (n : Int) : Date :=
  let n := n + epochDay
  let year := yearOf n
  let (month, day) := monthOf (monthLengths (isLeap year)) (n - daysBeforeYear year).toNat
  ⟨year, month, day⟩

end Date

example : (Date.mk 1970 1 1).dayNumber = 0 := by decide
example : (Date.mk 2000 3 1).dayNumber = 11017 := by decide
example : Date.ofDayNumber (-719529) = ⟨-1, 12, 31⟩ := by decide
example : Date.ofDayNumber 19782 = ⟨2024, 2, 29⟩ := by decide

end EgressWatch.Time
