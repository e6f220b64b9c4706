import EgressWatch.Proofs.Time.Stamp

/-!
# Going back in time

An instant a span ago is a count of nanoseconds less, if the calendar reaches back so far, and the
epoch where it does not or the span is too long to go back by. `Instant.Reaches` tells the two
apart.

> `ago_mono`: of two cutoffs the one with the later reading and the shorter span never falls before
> the other, unless that other one is the epoch itself.

So for readings of a clock the fallback does no harm. A `Reading` counts nanoseconds from the epoch
on and knows no leap seconds, so its order is that of the counts (`lt_iff_epochNanos`). If the
calendar reaches back by the longer span it does by the shorter one (`Reaches.not_ago_lt`), since it
has all instants between two that it has (`exists_ofEpochNanos?`). Nor does any way back lead beyond
the year 9999, where stamps stop being in order (`Reading.year_ago_le`).
-/

namespace EgressWatch.Time.Instant

/-- The instant lies between the epoch and the end of the year 9999. -/
def SinceEpoch (t : Instant) : Prop := 0 ≤ t.day ∧ t.date.year ≤ 9999

/-- What a clock shows: it counts nanoseconds from the epoch on and knows no leap seconds. -/
structure Reading (t : Instant) : Prop where
  sinceEpoch : t.SinceEpoch
  nano_lt : t.nano < nanosPerSecond

instance (t : Instant) : Decidable t.SinceEpoch := by unfold SinceEpoch; infer_instance

/-- Later days are in no earlier years. -/
theorem year_le_of_day_le {a b : Instant} (h : a.day ≤ b.day) : a.date.year ≤ b.date.year := by
  rcases Int.lt_or_eq_of_le h with hlt | heq
  · have := Date.lt_def.mp ((lt_iff_date_lt a.day b.day).mp hlt)
    show (Date.ofDayNumber a.day).year ≤ (Date.ofDayNumber b.day).year
    omega
  · rw [date, heq]
    exact Int.le_refl _

theorem SinceEpoch.plainYear {t : Instant} (h : t.SinceEpoch) : t.PlainYear := by
  have hepoch : epoch.date.year = 1970 := by decide
  have hyear : epoch.date.year ≤ t.date.year := year_le_of_day_le h.1
  exact ⟨by omega, h.2⟩

/-- Instants with whole seconds and fractions are ordered by their counts of nanoseconds. -/
theorem lt_iff_epochNanos {a b : Instant} (ha : a.nano < nanosPerSecond)
    (hb : b.nano < nanosPerSecond) : a < b ↔ a.epochNanos < b.epochNanos := by
  have has := a.second_lt
  have hbs := b.second_lt
  simp only [lt_def, epochNanos, epochSeconds, nanosPerSecond] at *
  omega

/-- What was counted back is what the calendar has at that count. -/
theorem ofEpochNanos?_eq_some {n : Int} {c : Instant} (h : ofEpochNanos? n = some c) :
    c.epochNanos = n ∧ c.nano < nanosPerSecond := by
  unfold ofEpochNanos? ofEpoch? ofParts? at h
  split at h
  next hparts =>
    rw [← Option.some.inj h]
    simp only [epochNanos, epochSeconds, nanosPerSecond]
    omega
  next => exact absurd h (by simp)

/-- An instant with a smaller count is on no later day. -/
theorem day_le_of_epochNanos_le {a b : Instant} (h : a.epochNanos ≤ b.epochNanos)
    (hb : b.nano < nanosPerSecond) : a.day ≤ b.day := by
  have hbs := b.second_lt
  simp only [epochNanos, epochSeconds, nanosPerSecond] at *
  omega

/-- The calendar has all instants between two that it has. -/
theorem exists_ofEpochNanos? {a b : Instant} {n : Int} (ha : a.epochNanos ≤ n)
    (hb : n ≤ b.epochNanos) (hbn : b.nano < nanosPerSecond) : ∃ c, ofEpochNanos? n = some c := by
  have hfirst := a.first_le_day
  have hlast := b.day_le_last
  have hbs := b.second_lt
  have hday : n / 1000000000 / 86400 ≤ b.day := by
    simp only [epochNanos, epochSeconds, nanosPerSecond] at *
    omega
  have hday' : a.day ≤ n / 1000000000 / 86400 := by
    simp only [epochNanos, epochSeconds] at *
    omega
  have hnano : (n % 1000000000).toNat < nanosPerSecond := by
    simp only [nanosPerSecond]
    omega
  unfold ofEpochNanos? ofEpoch? ofParts?
  rw [dif_pos ⟨⟨Int.le_trans hfirst hday', Int.le_trans hday hlast⟩, by omega, .inl hnano⟩]
  exact ⟨_, rfl⟩

/-- Cutting to the microsecond keeps the order. -/
theorem cut_le_cut {a b : Instant} (h : ¬ b < a) : ¬ b.cut < a.cut := by
  rw [lt_def] at h
  rw [cut_lt_cut]
  omega

/-! ## Ago -/

/-- One can go back by the span: it is not too long, and the calendar reaches back so far. -/
def Reaches (now : Instant) (s : Span) : Prop :=
  s.nanoseconds ≤ longestShift.nanoseconds ∧ (now.before? s).isSome

instance (now : Instant) (s : Span) : Decidable (now.Reaches s) := by
  unfold Reaches
  infer_instance

theorem Reaches.before?_eq {now : Instant} {s : Span} (h : now.Reaches s) :
    now.before? s = some (now.ago s) := by
  obtain ⟨c, hc⟩ := Option.isSome_iff_exists.mp h.2
  rw [ago, if_pos h.1, hc]
  rfl

/-- Where the way back leads nowhere it is to the epoch. -/
theorem ago_of_not_reaches {now : Instant} {s : Span} (h : ¬ now.Reaches s) :
    now.ago s = epoch := by
  unfold ago
  split
  next hs =>
    have hnone : now.before? s = none := by
      cases hb : now.before? s with
      | none => rfl
      | some c => exact absurd ⟨hs, by rw [hb]; rfl⟩ h
    rw [hnone]
    rfl
  next => rfl

/-- An instant ago is one that was counted back to, or the epoch. -/
theorem ago_cases (now : Instant) (s : Span) :
    now.ago s = epoch ∨
      (s.nanoseconds ≤ longestShift.nanoseconds ∧ now.before? s = some (now.ago s)) := by
  by_cases h : now.Reaches s
  · exact .inr ⟨h.1, h.before?_eq⟩
  · exact .inl (ago_of_not_reaches h)

/-- No way back leads beyond the year 9999. -/
theorem Reading.year_ago_le {now : Instant} (h : now.Reading) (s : Span) :
    (now.ago s).date.year ≤ 9999 := by
  rcases ago_cases now s with hepoch | ⟨-, hback⟩
  · rw [hepoch]
    decide
  · have hnanos := (ofEpochNanos?_eq_some hback).1
    have hday : (now.ago s).day ≤ now.day := day_le_of_epochNanos_le (by omega) h.nano_lt
    exact Int.le_trans (year_le_of_day_le hday) h.sinceEpoch.2

/-- If the calendar reaches back by a span, then a shorter span before an instant that is no earlier
does not lead before what it leads to. -/
theorem Reaches.not_ago_lt {now₁ now₂ : Instant} (h₁ : now₁.nano < nanosPerSecond)
    (h₂ : now₂.nano < nanosPerSecond) (hle : ¬ now₂ < now₁) {age window : Span}
    (hw : window ≤ age) (h : now₁.Reaches age) : ¬ now₂.ago window < now₁.ago age := by
  have hw : window.nanoseconds ≤ age.nanoseconds := hw
  rw [lt_iff_epochNanos h₂ h₁] at hle
  obtain ⟨hnanos, hnano⟩ := ofEpochNanos?_eq_some h.before?_eq
  -- the shorter way back from the later instant ends within the calendar too
  have hfrom : (now₁.ago age).epochNanos ≤ now₂.epochNanos - window.nanoseconds := by omega
  obtain ⟨c, hc⟩ := exists_ofEpochNanos? hfrom (by omega) h₂
  have hago : now₂.ago window = c := by
    rw [ago, if_pos (Nat.le_trans hw h.1), before?, hc]
    rfl
  obtain ⟨hnanos', hnano'⟩ := ofEpochNanos?_eq_some hc
  rw [hago, lt_iff_epochNanos hnano' hnano]
  omega

/-- What a clock showed a shorter span before a later reading is not before what it showed a longer
span before an earlier one, unless that is the epoch. -/
theorem ago_mono {now₁ now₂ : Instant} (h₁ : now₁.Reading) (h₂ : now₂.Reading)
    (hle : ¬ now₂ < now₁) {age window : Span} (hw : window ≤ age) :
    now₁.ago age = epoch ∨ ¬ now₂.ago window < now₁.ago age := by
  by_cases h : now₁.Reaches age
  · exact .inr (h.not_ago_lt h₁.nano_lt h₂.nano_lt hle hw)
  · exact .inl (ago_of_not_reaches h)

end EgressWatch.Time.Instant
