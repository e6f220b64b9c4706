import EgressWatch.Proofs.Text.Numerals
import EgressWatch.Proofs.Time.Calendar
import EgressWatch.Time.Stamp

/-!
# Stamps

Both written forms of an instant read back, and the short one keeps the order of time.

* `ofLooseStamp?_stamp`: the exact stamp of any instant of the calendar, be its year negative or
  beyond 9999 and be it within a leap second, reads back as that instant.
* `ofStamp?_microStamp`: the short stamp of an instant of the years 0 to 9999 reads back as the
  instant cut to the microsecond.
* `microStamp_lt_iff`: against a bound of any year up to 9999, the short stamp of such an instant
  compares as text exactly as the two instants, cut to the microsecond, compare in time. A bound of
  a negative year starts with a minus sign, which sorts below every digit.

Reading goes part by part, and each part of a stamp has a lemma that it is taken off whatever comes
behind it: the year with its sign (`takeYear_yearText`), numerals of two digits, the fraction, which
is as long as it has to be in one form and of six digits in the other (`takeFraction_fractionText`,
`takeFraction_padded`), and the mark at the end. Within a leap second the shown second is 60 and the
shown fraction is what goes beyond it (`ofLocal?_shown`).

Comparing goes part by part as well. Dates of the plain years have one width and compare as in the
calendar (`date_text_lt`), times of day compare as on the clock, a leap second coming last in its
minute (`timeText_lt`), and two stamps are two such pairs (`microStamp_lt_of_plain`).
-/

namespace EgressWatch.Time

open EgressWatch.Text

namespace Instant

/-! ## Cutting to the microsecond -/

/-- The instant cut to the microsecond. -/
def cut (t : Instant) : Instant where
  day := t.day
  second := t.second
  nano := t.nano / 1000 * 1000
  first_le_day := t.first_le_day
  day_le_last := t.day_le_last
  second_lt := t.second_lt
  nano_lt := by
    rcases t.nano_lt with h | ⟨h, hs⟩
    · exact .inl (Nat.lt_of_le_of_lt (Nat.div_mul_le_self ..) h)
    · exact .inr ⟨Nat.lt_of_le_of_lt (Nat.div_mul_le_self ..) h, hs⟩

/-- The year is one of 0 to 9999, which are written with four digits and no sign. -/
def PlainYear (t : Instant) : Prop := 0 ≤ t.date.year ∧ t.date.year ≤ 9999

instance (t : Instant) : Decidable t.PlainYear := by unfold PlainYear; infer_instance

theorem lt_def {a b : Instant} : a < b ↔ a.day < b.day ∨ (a.day = b.day ∧
    (a.second < b.second ∨ (a.second = b.second ∧ a.nano < b.nano))) := Iff.rfl

theorem cut_lt_cut {a b : Instant} : a.cut < b.cut ↔ a.day < b.day ∨ (a.day = b.day ∧
    (a.second < b.second ∨ (a.second = b.second ∧ a.nano / 1000 < b.nano / 1000))) := by
  rw [lt_def]
  show _ ∨ (_ ∧ (_ ∨ (_ ∧ a.nano / 1000 * 1000 < b.nano / 1000 * 1000))) ↔ _
  rw [Nat.mul_lt_mul_right (by decide)]
  rfl

/-! ## Parts of a stamp -/

theorem shownNano_lt (t : Instant) : t.shownNano < nanosPerSecond := by
  have h := t.nano_lt
  unfold shownNano
  split <;> omega

theorem shownSecond_le (t : Instant) : t.shownSecond ≤ 60 := by
  unfold shownSecond
  split <;> omega

/-- The seconds of an instant, counted with the digits of the epoch, make it up again. -/
@[simp] theorem ofEpoch?_parts (t : Instant) :
    ofEpoch? (t.day * 86400 + t.second) t.nano = some t := by
  have hs := t.second_lt
  have hday : (t.day * 86400 + t.second) / 86400 = t.day := by omega
  have hsec : ((t.day * 86400 + t.second) % 86400).toNat = t.second := by omega
  rw [ofEpoch?, hday, hsec, ofParts?_parts]

/-- The shown date and time lead back to the instant whose fraction is shown, and within a leap
second to that second. -/
theorem ofLocal?_shown {t u : Instant} {n : Nat} (hd : u.day = t.day) (hs : u.second = t.second)
    (hn : u.nano = n + if nanosPerSecond ≤ t.nano then nanosPerSecond else 0) :
    ofLocal? t.date (t.second / 3600) (t.second / 60 % 60) t.shownSecond n 0 = some u := by
  have hsec := t.second_lt
  have hle := t.shownSecond_le
  have hu := ofEpoch?_parts u
  unfold ofLocal?
  rw [if_pos ⟨t.valid_date, by omega, by omega, hle⟩]
  rw [hd, hs, hn] at hu
  -- second 60 stands for 59 with a fraction of a second or more; no other second is shown as 60
  by_cases hleap : nanosPerSecond ≤ t.nano
  · have hlast : t.second % 60 = 59 := by
      rcases t.nano_lt with h | h
      · omega
      · exact h.2
    have hshown : t.shownSecond = 60 := by
      rw [shownSecond, if_pos hleap, hlast]
    rw [if_pos hleap] at hu
    simp only [hshown, if_true, dayNumber_date]
    rw [← hu]
    congr 1
    omega
  · have hshown : t.shownSecond = t.second % 60 := by
      rw [shownSecond, if_neg hleap, Nat.add_zero]
    have hne : t.second % 60 ≠ 60 := by omega
    rw [if_neg hleap, Nat.add_zero] at hu
    simp only [hshown, hne, if_false, dayNumber_date]
    rw [← hu]
    congr 1
    omega

/-- The end of every written stamp. -/
theorem noDigitFirst_mark : NoDigitFirst ['Z'] := noDigitFirst_cons rfl

/-- A fraction of so many places counts in nanoseconds. -/
theorem takeFraction_padded {w n : Nat} {rest : List Char} (hw : 0 < w) (hw9 : w ≤ 9)
    (h : n < 10 ^ w) (hr : NoDigitFirst rest) :
    takeFraction ('.' :: padded w n ++ rest) = some (n * 10 ^ (9 - w), rest) := by
  have hlen := length_padded hw h
  have htake : takeNumber 1 9 (padded w n ++ rest) = some (n, rest) := by
    rw [takeNumber_append (fun _ hc => isDigit_of_mem_padded hc) (by omega) (by omega) (.inr hr),
      natural_padded]
  have hdrop : ([] ++ rest).dropWhile Char.isDigit = rest :=
    dropWhile_isDigit_append (List.forall_mem_nil _) hr
  rw [List.nil_append] at hdrop
  have hplaces : (padded w n ++ rest).length - rest.length = w := by
    rw [List.length_append, hlen, Nat.add_sub_cancel]
  simp only [takeFraction, List.cons_append, htake, Option.bind_eq_bind, Option.bind_some, hplaces,
    hdrop]
  rfl

/-- The shortest exact fraction reads back. -/
theorem takeFraction_fractionText {n : Nat} (h : n < nanosPerSecond) :
    takeFraction (fractionText n ++ ['Z']) = some (n, ['Z']) := by
  have h9 : n < 1000000000 := h
  unfold fractionText
  split
  next h0 =>
    rw [h0]
    rfl
  next =>
    split
    next h6 =>
      rw [takeFraction_padded (by decide) (by decide) (by omega) noDigitFirst_mark]
      have : n / 1000000 * 10 ^ (9 - 3) = n := by omega
      rw [this]
    next =>
      split
      next h3 =>
        rw [takeFraction_padded (by decide) (by decide) (by omega) noDigitFirst_mark]
        have : n / 1000 * 10 ^ (9 - 6) = n := by omega
        rw [this]
      next =>
        rw [takeFraction_padded (by decide) (by decide) (by omega) noDigitFirst_mark]
        have : n * 10 ^ (9 - 9) = n := by omega
        rw [this]

theorem takeOffset_mark (between : List Char → Option (List Char)) :
    takeOffset between ['Z'] = some (0, []) := rfl

@[simp] theorem takeChar_cons (c : Char) (cs : List Char) : takeChar c (c :: cs) = some cs :=
  if_pos rfl

@[simp] theorem takeTimeMark_cons (cs : List Char) : takeTimeMark ('T' :: cs) = some cs := rfl

/-! ## Reading the short stamp -/

theorem yearText_plain {y : Int} (h : 0 ≤ y ∧ y ≤ 9999) : yearText y = padded 4 y.toNat := by
  rw [yearText, if_pos h]

/-- What is cut off a fraction is cut off what is shown of it. -/
theorem nano_cut (t : Instant) : t.cut.nano =
    t.shownNano / 1000 * 1000 + if nanosPerSecond ≤ t.nano then nanosPerSecond else 0 := by
  show t.nano / 1000 * 1000 = _
  unfold shownNano nanosPerSecond
  split <;> omega

/-- The short stamp of an instant of the years 0 to 9999 reads as the instant cut to the
microsecond. -/
theorem ofStamp?_microStamp {t : Instant} (h : t.PlainYear) :
    ofStamp? t.microStamp = some t.cut := by
  have hmonth := t.month_date_le
  have hday := t.day_date_le
  have hsec := t.second_lt
  have hshown := t.shownSecond_le
  have hnano : t.shownNano < 1000000000 := t.shownNano_lt
  have hmax := h.2
  have hyear : ((t.date.year.toNat : Nat) : Int) = t.date.year := Int.toNat_of_nonneg h.1
  have hfraction : takeFraction ('.' :: padded 6 (t.shownNano / 1000) ++ ['Z']) =
      some (t.shownNano / 1000 * 10 ^ (9 - 6), ['Z']) :=
    takeFraction_padded (by decide) (by decide) (by omega) noDigitFirst_mark
  -- part by part from the front; each numeral ends at the mark behind it
  unfold ofStamp? microStamp secondText Date.text
  rw [yearText_plain h]
  simp only [List.append_assoc, List.cons_append, Option.bind_eq_bind] at hfraction ⊢
  rw [takeNumber_padded (by decide) (by omega) (by decide), Option.bind_some,
    takeChar_cons, Option.bind_some,
    takeNumber_padded (by decide) (by omega) (by decide), Option.bind_some,
    takeChar_cons, Option.bind_some,
    takeNumber_padded (by decide) (by omega) (by decide), Option.bind_some,
    takeTimeMark_cons, Option.bind_some,
    takeNumber_padded (by decide) (by omega) (by decide), Option.bind_some,
    takeChar_cons, Option.bind_some,
    takeNumber_padded (by decide) (by omega) (by decide), Option.bind_some,
    takeChar_cons, Option.bind_some,
    takeNumber_padded (by decide) (by omega) (by decide), Option.bind_some,
    hfraction, Option.bind_some, takeOffset_mark, Option.bind_some, hyear,
    if_pos ⟨rfl, by decide⟩]
  exact ofLocal?_shown rfl rfl t.nano_cut

/-! ## Reading the exact stamp -/

theorem isBlank_of_isDigit {c : Char} (h : c.isDigit = true) : isBlank c = false := by
  have hc : 48 ≤ c.toNat ∧ c.toNat ≤ 57 := Char.isDigit_iff_toNat.mp h
  simp only [isBlank, Bool.or_eq_false_iff, Bool.and_eq_false_iff, decide_eq_false_iff_not,
    beq_eq_false_iff_ne]
  omega

/-- No blanks stand in front of a numeral. -/
@[simp] theorem trimStart_padded (w n : Nat) (rest : List Char) :
    trimStart (padded w n ++ rest) = padded w n ++ rest := by
  obtain ⟨c, cs, hp, hc⟩ := padded_start w n
  rw [hp, List.cons_append, trimStart_cons (isBlank_of_isDigit hc)]

theorem takeLoosePair_padded {n : Nat} {rest : List Char} (h : n < 100) :
    takeLoosePair (padded 2 n ++ rest) = some (n, rest) := by
  rw [takeLoosePair, trimStart_padded, takeNumber_padded (by decide) (by omega) (by decide)]

/-- A mark that is no blank is taken where it stands. -/
theorem takeLooseChar_cons {c : Char} {cs : List Char} (h : isBlank c = false) :
    takeLooseChar c (c :: cs) = some cs := by
  rw [takeLooseChar, trimStart_cons h, takeChar_cons]

/-- A year with its sign reads back. -/
theorem takeYear_yearText (y : Int) (rest : List Char) :
    takeYear (trimStart (yearText y ++ '-' :: rest)) = some (y, '-' :: rest) := by
  have hmark : NoDigitFirst ('-' :: rest) := noDigitFirst_cons rfl
  have hsigned : takeNumber 1 (padded 4 y.natAbs ++ '-' :: rest).length
      (padded 4 y.natAbs ++ '-' :: rest) = some (y.natAbs, '-' :: rest) := by
    have hlen := le_length_padded 4 y.natAbs
    rw [takeNumber_append (fun _ hc => isDigit_of_mem_padded hc) (by omega)
      (by rw [List.length_append]; omega) (.inr hmark), natural_padded]
  unfold yearText
  split
  next h =>
    rw [trimStart_padded]
    have htake : takeNumber 1 4 (padded 4 y.toNat ++ '-' :: rest) = some (y.toNat, '-' :: rest) :=
      takeNumber_padded (by decide) (by omega) (by decide)
    -- a plain year starts with a digit, so no sign is taken off it
    obtain ⟨c, cs, hp, hc⟩ := padded_start 4 y.toNat
    have hminus : c ≠ '-' := by
      intro he
      rw [he] at hc
      exact absurd hc (by decide)
    have hplus : c ≠ '+' := by
      intro he
      rw [he] at hc
      exact absurd hc (by decide)
    have hy : ((y.toNat : Nat) : Int) = y := Int.toNat_of_nonneg h.1
    rw [hp, List.cons_append] at htake ⊢
    rw [takeYear, if_neg hminus, if_neg hplus, htake]
    exact congrArg (fun n => some (n, '-' :: rest)) hy
  next h =>
    by_cases hneg : y < 0
    · have hy : -((y.natAbs : Nat) : Int) = y := by omega
      rw [if_pos hneg, List.cons_append, trimStart_cons (by decide), takeYear, if_pos rfl, hsigned]
      exact congrArg (fun n => some (n, '-' :: rest)) hy
    · have hy : ((y.natAbs : Nat) : Int) = y := by omega
      rw [if_neg hneg, List.cons_append, trimStart_cons (by decide), takeYear,
        if_neg (by decide), if_pos rfl, hsigned]
      exact congrArg (fun n => some (n, '-' :: rest)) hy

theorem takeLooseOffset_mark : takeLooseOffset (trimStart ['Z']) = some (0, []) := rfl

/-- The exact stamp of every instant of the calendar reads back. -/
theorem ofLooseStamp?_stamp (t : Instant) : ofLooseStamp? t.stamp = some t := by
  have hmonth := t.month_date_le
  have hday := t.day_date_le
  have hsec := t.second_lt
  have hshown := t.shownSecond_le
  have hnano : t.nano = t.shownNano + if nanosPerSecond ≤ t.nano then nanosPerSecond else 0 := by
    unfold shownNano
    split <;> omega
  unfold ofLooseStamp? stamp secondText Date.text
  simp only [List.append_assoc, List.cons_append, Option.bind_eq_bind]
  rw [takeYear_yearText, Option.bind_some,
    takeLooseChar_cons (by decide), Option.bind_some,
    takeLoosePair_padded (by omega), Option.bind_some,
    takeLooseChar_cons (by decide), Option.bind_some,
    takeLoosePair_padded (by omega), Option.bind_some,
    takeTimeMark_cons, Option.bind_some,
    takeLoosePair_padded (by omega), Option.bind_some,
    takeLooseChar_cons (by decide), Option.bind_some,
    takeLoosePair_padded (by omega), Option.bind_some,
    takeLooseChar_cons (by decide), Option.bind_some,
    takeLoosePair_padded (by omega), Option.bind_some,
    takeFraction_fractionText t.shownNano_lt, Option.bind_some,
    takeLooseOffset_mark, Option.bind_some, if_pos ⟨rfl, by decide⟩]
  exact ofLocal?_shown rfl rfl hnano

/-! ## The order of short stamps -/

/-- The time of day in a short stamp. -/
def timeText (t : Instant) : List Char :=
  'T' :: (padded 2 (t.second / 3600) ++ ':' :: (padded 2 (t.second / 60 % 60) ++
    ':' :: (padded 2 t.shownSecond ++ '.' :: (padded 6 (t.shownNano / 1000) ++ ['Z']))))

theorem microStamp_eq (t : Instant) : t.microStamp = t.date.text ++ t.timeText := by
  simp [microStamp, secondText, timeText]

theorem date_text_plain {t : Instant} (h : t.PlainYear) :
    t.date.text = padded 4 t.date.year.toNat ++ '-' :: (padded 2 t.date.month ++
      '-' :: padded 2 t.date.day) := by
  rw [Date.text, yearText_plain h, List.append_assoc, List.cons_append]

theorem length_date_text {t : Instant} (h : t.PlainYear) : t.date.text.length = 10 := by
  have hmonth := t.month_date_le
  have hday := t.day_date_le
  have hmax := h.2
  rw [date_text_plain h, List.length_append, List.length_cons, List.length_append,
    List.length_cons, length_padded (by decide) (by omega), length_padded (by decide) (by omega),
    length_padded (by decide) (by omega)]

/-- Dates of the years 0 to 9999 compare as texts as they do in the calendar. -/
theorem date_text_lt {a b : Instant} (ha : a.PlainYear) (hb : b.PlainYear) :
    a.date.text < b.date.text ↔ a.date < b.date := by
  have ham := a.month_date_le
  have hbm := b.month_date_le
  have had := a.day_date_le
  have hbd := b.day_date_le
  obtain ⟨ha0, ha9⟩ := ha
  obtain ⟨hb0, hb9⟩ := hb
  have ha4 : a.date.year.toNat < 10 ^ 4 := by omega
  have hb4 : b.date.year.toNat < 10 ^ 4 := by omega
  -- the parts have equal widths, so the first of them that differs decides
  rw [date_text_plain ⟨ha0, ha9⟩, date_text_plain ⟨hb0, hb9⟩,
    padded_append_lt_iff (by decide) ha4 hb4,
    padded_append_lt_iff (by decide) (by omega) (by omega),
    padded_lt_padded_iff (by decide) (by omega) (by omega), Date.lt_def]
  omega

/-- Times of day compare as texts as they do on the clock, a leap second coming last in its
minute. -/
theorem timeText_lt (a b : Instant) : a.timeText < b.timeText ↔
    a.second < b.second ∨ (a.second = b.second ∧ a.nano / 1000 < b.nano / 1000) := by
  have has := a.second_lt
  have hbs := b.second_lt
  have hal := a.shownSecond_le
  have hbl := b.shownSecond_le
  have han : a.shownNano < 1000000000 := a.shownNano_lt
  have hbn : b.shownNano < 1000000000 := b.shownNano_lt
  rw [timeText, timeText, List.cons_lt_cons_self,
    padded_append_lt_iff (by decide) (by omega) (by omega),
    padded_append_lt_iff (by decide) (by omega) (by omega),
    padded_append_lt_iff (by decide) (by omega) (by omega),
    padded_append_lt_iff (by decide) (by omega) (by omega)]
  have hirr : ¬ ([] : List Char) < [] := List.lt_irrefl _
  -- only a second 59 can be shown as 60, so what is shown keeps the order within the minute
  have halast := a.nano_lt
  have hblast := b.nano_lt
  unfold shownSecond shownNano at *
  unfold nanosPerSecond at *
  simp only [hirr, and_false, or_false]
  split <;> split <;> omega

/-- Short stamps of the years 0 to 9999 have one width. -/
theorem length_microStamp {t : Instant} (h : t.PlainYear) : t.microStamp.length = 27 := by
  have hsec := t.second_lt
  have hshown := t.shownSecond_le
  have hnano : t.shownNano < 1000000000 := t.shownNano_lt
  rw [microStamp_eq, List.length_append, length_date_text h, timeText]
  simp only [List.length_cons, List.length_append, List.length_nil]
  rw [length_padded (by decide) (by omega), length_padded (by decide) (by omega),
    length_padded (by decide) (by omega), length_padded (by decide) (by omega)]

/-- Short stamps of the years 0 to 9999 compare as texts as their instants, cut to the
microsecond, compare in time. -/
theorem microStamp_lt_of_plain {a b : Instant} (ha : a.PlainYear) (hb : b.PlainYear) :
    a.microStamp < b.microStamp ↔ a.cut < b.cut := by
  have hdate : a.date.text = b.date.text ↔ a.day = b.day := by
    constructor
    · intro h
      have hab := mt (date_text_lt ha hb).mpr (by rw [h]; exact List.lt_irrefl _)
      have hba := mt (date_text_lt hb ha).mpr (by rw [h]; exact List.lt_irrefl _)
      rcases Date.lt_trichotomy a.date b.date with hlt | heq | hgt
      · exact absurd hlt hab
      · exact ofDayNumber_inj.mp heq
      · exact absurd hgt hba
    · intro h
      have : a.date = b.date := ofDayNumber_inj.mpr h
      rw [this]
  have hday : a.date < b.date ↔ a.day < b.day := (lt_iff_date_lt a.day b.day).symm
  rw [microStamp_eq, microStamp_eq,
    append_lt_append_iff (by rw [length_date_text ha, length_date_text hb]), hdate,
    date_text_lt ha hb, hday, timeText_lt, cut_lt_cut]

/-- A stamp of any other year, which starts with a sign, comes before all those of the years 0 to
9999. -/
theorem microStamp_lt_of_signed {a b : Instant} (ha : ¬ a.PlainYear) (hb : b.PlainYear) :
    a.microStamp < b.microStamp := by
  obtain ⟨c, cs, hp, hc⟩ := padded_start 4 b.date.year.toNat
  have hlow : 48 ≤ c.toNat := (Char.isDigit_iff_toNat.mp hc).1
  have hyear : ¬ (0 ≤ a.date.year ∧ a.date.year ≤ 9999) := ha
  rw [microStamp_eq, microStamp_eq, date_text_plain hb, Date.text, yearText, if_neg hyear, hp]
  simp only [List.cons_append, List.cons_lt_cons_iff]
  -- the signs, characters 43 and 45, meet a digit
  left
  rw [Char.lt_def, UInt32.lt_iff_toNat_lt]
  split
  next => exact Nat.lt_of_lt_of_le (by decide) hlow
  next => exact Nat.lt_of_lt_of_le (by decide) hlow

/-- A stamp of the years 0 to 9999 compares with that of a bound, which may have a negative year,
as the two instants, cut to the microsecond, compare in time. -/
theorem microStamp_lt_iff {t bound : Instant} (ht : t.PlainYear) (hb : bound.date.year ≤ 9999) :
    t.microStamp < bound.microStamp ↔ t.cut < bound.cut := by
  by_cases hneg : bound.date.year < 0
  -- negative years are in the wrong order among themselves, but only the bound can have one
  · have hbefore : bound.day < t.day := by
      rw [lt_iff_date_lt]
      have := ht.1
      exact .inl (by simp only [date] at *; omega)
    constructor
    · intro h
      have hsigned : ¬ bound.PlainYear := fun hplain => absurd hplain.1 (by omega)
      exact absurd (List.lt_trans h (microStamp_lt_of_signed hsigned ht)) (List.lt_irrefl _)
    · intro h
      rw [cut_lt_cut] at h
      omega
  · exact microStamp_lt_of_plain ht ⟨by omega, hb⟩

end Instant

end EgressWatch.Time
