import EgressWatch.Time.Instant

/-!
# Days and dates

`Date.ofDayNumber` finds the date of a day, for all days before and after the epoch, and
`dayNumber_ofDayNumber` says that `Date.dayNumber` leads back. The years, months and days of dates,
compared in this order, order the days:

> `lt_iff_date_lt`: days follow each other in the order of their dates.

So a text which writes them in this order with fixed widths keeps the order of time.

The date of a day is found in two steps, and each has its own account. The year is the one whose
days the day is among (`day_in_year`, by how many days years have before them), and the month the
one that the place in the year falls into (`daysBeforeMonth_add_le`); months are few enough to be
tried one by one, in leap years and in others. What is found is a date that exists (`Date.Regular`),
whatever the year, and of two such dates the earlier one has the smaller number (`dayNumber_lt`).

The instants of the calendar start with the first day of one year and end with the last day of
another, which is how their dates come to be valid (`valid_date`).
-/

namespace EgressWatch.Time

/-! ## Years -/

theorem daysBeforeYear_succ (y : Int) :
    daysBeforeYear (y + 1) = daysBeforeYear y + if isLeap y then 366 else 365 := by
  unfold daysBeforeYear isLeap
  grind

theorem daysBeforeYear_mono {x y : Int} (h : x ≤ y) : daysBeforeYear x ≤ daysBeforeYear y := by
  unfold daysBeforeYear
  omega

/-- The months of a year add up to it. -/
theorem totalDays_monthLengths (leap : Bool) :
    totalDays (monthLengths leap) = if leap then 366 else 365 := by
  cases leap <;> decide

/-- The place of a day in its year, counted from 0, is one that the year has. -/
theorem day_in_year (n : Int) :
    0 ≤ n - daysBeforeYear (yearOf n) ∧
      (n - daysBeforeYear (yearOf n)).toNat < totalDays (monthLengths (isLeap (yearOf n))) := by
  have h1 := daysBeforeYear_yearOf_le n
  have h2 := lt_daysBeforeYear_yearOf n
  rw [daysBeforeYear_succ] at h2
  rw [totalDays_monthLengths]
  by_cases hl : isLeap (yearOf n) = true
  · rw [if_pos hl] at h2 ⊢
    constructor <;> omega
  · rw [if_neg hl] at h2 ⊢
    constructor <;> omega

/-! ## Months -/

/-- A month ends before a later one begins. -/
theorem daysBeforeMonth_add_le (leap : Bool) :
    ∀ m < 13, ∀ m' < 13, 1 ≤ m → m < m' →
      daysBeforeMonth leap m + monthLength leap m ≤ daysBeforeMonth leap m' := by
  cases leap <;> decide

/-- A month ends with its year or before. -/
theorem daysBeforeMonth_add_le_year (leap : Bool) : ∀ m < 13, 1 ≤ m →
    daysBeforeMonth leap m + monthLength leap m ≤ if leap then 366 else 365 := by
  cases leap <;> decide

theorem monthLength_le (leap : Bool) : ∀ m < 13, monthLength leap m ≤ 31 := by
  cases leap <;> decide

theorem monthLength_eq_getD (leap : Bool) {m : Nat} (h : 1 ≤ m) :
    monthLength leap m = (monthLengths leap).getD (m - 1) 0 := by
  cases m with
  | zero => omega
  | succ m => rfl

namespace Date

/-- The month is one of the twelve and has the day, be the year in the calendar or not. -/
structure Regular (d : Date) : Prop where
  one_le_month : 1 ≤ d.month
  month_le : d.month ≤ 12
  one_le_day : 1 ≤ d.day
  day_le : d.day ≤ monthLength (isLeap d.year) d.month

/-- The date of a day: its month and place make up the day's place in the year. -/
theorem ofDayNumber_spec (n : Int) :
    (ofDayNumber n).Regular ∧ (ofDayNumber n).year = yearOf (n + epochDay) ∧
      daysBeforeMonth (isLeap (ofDayNumber n).year) (ofDayNumber n).month + (ofDayNumber n).day =
        (n + epochDay - daysBeforeYear (yearOf (n + epochDay))).toNat + 1 := by
  obtain ⟨h1, h2, h3, h4, h5⟩ := monthOf_spec _ _ (day_in_year (n + epochDay)).2
  have hlen : (monthLengths (isLeap (yearOf (n + epochDay)))).length = 12 := rfl
  have hday := Nat.le_of_eq (monthLength_eq_getD (isLeap (yearOf (n + epochDay))) h1).symm
  exact ⟨⟨h1, hlen ▸ h2, h3, Nat.le_trans h4 hday⟩, rfl, h5⟩

theorem regular_ofDayNumber (n : Int) : (ofDayNumber n).Regular := (ofDayNumber_spec n).1

/-- The date of a day has the number of the day. -/
@[simp] theorem dayNumber_ofDayNumber (n : Int) : (ofDayNumber n).dayNumber = n := by
  obtain ⟨hr, hy, hd⟩ := ofDayNumber_spec n
  have h1 := hr.one_le_day
  have h2 := (day_in_year (n + epochDay)).1
  unfold dayNumber
  rw [hy] at hd ⊢
  omega

/-! ## The order of dates -/

/-- Years first, then months, then days. -/
instance : LT Date where
  lt d e := d.year < e.year ∨ (d.year = e.year ∧
    (d.month < e.month ∨ (d.month = e.month ∧ d.day < e.day)))

theorem lt_def {d e : Date} : d < e ↔ d.year < e.year ∨ (d.year = e.year ∧
    (d.month < e.month ∨ (d.month = e.month ∧ d.day < e.day))) := Iff.rfl

theorem lt_trichotomy (d e : Date) : d < e ∨ d = e ∨ e < d := by
  cases d
  cases e
  simp only [lt_def, mk.injEq]
  omega

/-- Of two dates the earlier one has the smaller number. -/
theorem dayNumber_lt {d e : Date} (hd : d.Regular) (he : e.Regular) (h : d < e) :
    d.dayNumber < e.dayNumber := by
  have hd1 := hd.day_le
  have he1 := he.one_le_day
  have hm := hd.one_le_month
  have hm' := hd.month_le
  have hme := he.month_le
  unfold dayNumber
  rcases h with hy | ⟨hy, hmlt | ⟨hmeq, hday⟩⟩
  -- the first year that differs, or else the first month, ends before the later one begins
  · have hend := daysBeforeMonth_add_le_year (isLeap d.year) d.month (by omega) hm
    have hnext := daysBeforeYear_mono (x := d.year + 1) (y := e.year) (by omega)
    rw [daysBeforeYear_succ] at hnext
    by_cases hl : isLeap d.year = true
    · rw [if_pos hl] at hend hnext
      omega
    · rw [if_neg hl] at hend hnext
      omega
  · have := daysBeforeMonth_add_le (isLeap d.year) d.month (by omega) e.month (by omega) hm hmlt
    rw [← hy]
    omega
  · rw [← hy, ← hmeq]
    omega

end Date

/-- Days follow each other in the order of their dates. -/
theorem lt_iff_date_lt (m n : Int) : m < n ↔ Date.ofDayNumber m < Date.ofDayNumber n := by
  have hm := Date.regular_ofDayNumber m
  have hn := Date.regular_ofDayNumber n
  constructor
  · intro h
    rcases Date.lt_trichotomy (.ofDayNumber m) (.ofDayNumber n) with hlt | heq | hgt
    · exact hlt
    · have := congrArg Date.dayNumber heq
      simp only [Date.dayNumber_ofDayNumber] at this
      omega
    · have := Date.dayNumber_lt hn hm hgt
      simp only [Date.dayNumber_ofDayNumber] at this
      omega
  · intro h
    have := Date.dayNumber_lt hm hn h
    simpa using this

theorem ofDayNumber_inj {m n : Int} : Date.ofDayNumber m = Date.ofDayNumber n ↔ m = n := by
  constructor
  · intro h
    have := congrArg Date.dayNumber h
    simpa using this
  · intro h
    rw [h]

namespace Instant

theorem regular_date (t : Instant) : t.date.Regular := Date.regular_ofDayNumber _

theorem month_date_le (t : Instant) : t.date.month ≤ 12 := t.regular_date.month_le

theorem day_date_le (t : Instant) : t.date.day ≤ 31 := by
  have hmonth := t.month_date_le
  exact Nat.le_trans t.regular_date.day_le (monthLength_le _ _ (by omega))

@[simp] theorem dayNumber_date (t : Instant) : t.date.dayNumber = t.day :=
  Date.dayNumber_ofDayNumber _

/-- Every instant has a date that exists. -/
theorem valid_date (t : Instant) : t.date.Valid := by
  have hr := t.regular_date
  have hlow : ¬ t.date < ⟨Date.firstYear, 1, 1⟩ := by
    intro h
    have hf : Date.Regular ⟨Date.firstYear, 1, 1⟩ := by constructor <;> decide
    have := Date.dayNumber_lt hr hf h
    rw [dayNumber_date] at this
    exact absurd t.first_le_day (by omega)
  have hhigh : ¬ (⟨Date.lastYear, 12, 31⟩ : Date) < t.date := by
    intro h
    have hl : Date.Regular ⟨Date.lastYear, 12, 31⟩ := by constructor <;> decide
    have := Date.dayNumber_lt hl hr h
    rw [dayNumber_date] at this
    exact absurd t.day_le_last (by omega)
  rw [Date.lt_def] at hlow hhigh
  refine ⟨?_, ?_, hr.one_le_month, hr.month_le, hr.one_le_day, hr.day_le⟩
  · simp only [not_or] at hlow
    omega
  · simp only [not_or] at hhigh
    omega

end Instant

end EgressWatch.Time
