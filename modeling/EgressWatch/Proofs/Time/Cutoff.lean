import EgressWatch.Config.Basic
import EgressWatch.Proofs.Time.Shift

/-!
# Cutoffs without bounds

Counts of nanoseconds go as far back as one likes, but spans that are too long to go back by and
counts that the calendar does not have lead to the epoch. `CutBefore` compares an instant with a
count of any size, to the microsecond, and so says what a span should cut off: what comes before the
bare difference between the clock and the span.

What it does cut off is that and no more, unless the way back leads nowhere (`Reaches`). Then
nothing in the calendar comes before the difference (`not_cutBefore_of_not_reaches`), but what lies
before the epoch is cut off all the same (`cut_lt_ago_iff_or`). For instants from the epoch on that
makes no difference, as nothing of that kind is before the epoch: for them the bare difference
decides, however long the span (`cut_lt_ago_iff`).

A number of hours is a word too, and as many seconds may be more than a word holds. The span is cut
to what a word holds then (`hoursSpan`), which comes to the same: either leads out of the calendar
(`cutBefore_hoursSpan_iff`).
-/

namespace EgressWatch.Time.Instant

/-- The instant comes before a count of nanoseconds since the epoch, both cut to the microsecond. A
leap second stays in the second that holds it. -/
def CutBefore (t : Instant) (n : Int) : Prop :=
  t.epochSeconds < n / 1000000000 ∨
    (t.epochSeconds = n / 1000000000 ∧ ((t.nano / 1000 : Nat) : Int) < n % 1000000000 / 1000)

instance (t : Instant) (n : Int) : Decidable (t.CutBefore n) := by
  unfold CutBefore
  infer_instance

/-- Outside of leap seconds whole microseconds are compared. -/
theorem cutBefore_iff {t : Instant} (h : t.nano < nanosPerSecond) (n : Int) :
    t.CutBefore n ↔ t.epochNanos / 1000 < n / 1000 := by
  simp only [CutBefore, epochNanos, nanosPerSecond] at *
  omega

theorem cut_lt_cut_iff {t c : Instant} (hc : c.nano < nanosPerSecond) :
    t.cut < c.cut ↔ t.CutBefore c.epochNanos := by
  have hts := t.second_lt
  have hcs := c.second_lt
  rw [cut_lt_cut]
  simp only [CutBefore, epochNanos, epochSeconds, nanosPerSecond] at *
  omega

theorem SinceEpoch.not_cut_lt_epoch {t : Instant} (h : t.SinceEpoch) : ¬ t.cut < epoch.cut := by
  have hday := h.1
  rw [cut_lt_cut]
  show ¬ (t.day < 0 ∨ t.day = 0 ∧ (t.second < 0 ∨ t.second = 0 ∧ t.nano / 1000 < 0 / 1000))
  omega

/-- The calendar is short against what a span may be. -/
theorem epochNanos_bounds (t : Instant) :
    -10000000000000000000000 ≤ t.epochNanos ∧ t.epochNanos ≤ 10000000000000000000000 := by
  have hfirst := t.first_le_day
  have hlast := t.day_le_last
  have hyears : -100000000 ≤ Date.dayNumber ⟨Date.firstYear, 1, 1⟩ ∧
      Date.dayNumber ⟨Date.lastYear, 12, 31⟩ ≤ 100000000 := by decide
  have hsecond := t.second_lt
  have hnano := t.nano_lt
  simp only [epochNanos, epochSeconds, nanosPerSecond] at *
  omega

/-- Nothing in the calendar comes before a count from before it. -/
theorem not_cutBefore_of_le (t : Instant) {n : Int} (hn : n ≤ -20000000000000000000000) :
    ¬ t.CutBefore n := by
  have hearly := t.epochNanos_bounds.1
  have hnano := t.nano_lt
  unfold CutBefore
  simp only [epochNanos, nanosPerSecond] at *
  omega

/-- Where one cannot go back by a span, nothing in the calendar comes before where it ends. -/
theorem not_cutBefore_of_not_reaches {t now : Instant} (hnow : now.nano < nanosPerSecond) {s : Span}
    (h : ¬ now.Reaches s) : ¬ t.CutBefore (now.epochNanos - s.nanoseconds) := by
  intro hbefore
  -- the start of the second that the instant lies in, which is no leap second
  let start : Instant := { t with nano := 0, nano_lt := .inl (by decide) }
  have hstart : start.epochNanos = t.epochSeconds * 1000000000 := Int.add_zero _
  have hle : start.epochNanos ≤ now.epochNanos - s.nanoseconds := by
    unfold CutBefore at hbefore
    omega
  obtain ⟨c, hc⟩ := exists_ofEpochNanos? hle (by omega) hnow
  have hearly := start.epochNanos_bounds.1
  have hlate := now.epochNanos_bounds.2
  have hlongest : longestShift.nanoseconds = 9223372036854775807000000 := rfl
  refine h ⟨by omega, ?_⟩
  rw [before?, hc]
  rfl

/-- What is cut off by going back from what a clock shows is what comes before the difference, and
where the way back leads nowhere also what comes before the epoch. -/
theorem cut_lt_ago_iff_or {t now : Instant} (hnow : now.nano < nanosPerSecond) (s : Span) :
    t.cut < (now.ago s).cut ↔ t.CutBefore (now.epochNanos - s.nanoseconds) ∨
      ¬ now.Reaches s ∧ t.cut < epoch.cut := by
  by_cases h : now.Reaches s
  · obtain ⟨hnanos, hnano⟩ := ofEpochNanos?_eq_some h.before?_eq
    rw [cut_lt_cut_iff hnano, hnanos]
    exact (or_iff_left fun hnot => hnot.1 h).symm
  · rw [ago_of_not_reaches h]
    have hnone := not_cutBefore_of_not_reaches (t := t) hnow h
    exact ⟨fun hlt => .inr ⟨h, hlt⟩, fun hor => (hor.resolve_left hnone).2⟩

/-- Of what lies after the epoch, what is cut off is what comes before the difference, even if the
way back leads beyond all that can be counted or has a date. -/
theorem cut_lt_ago_iff {t now : Instant} (ht : t.SinceEpoch) (hnow : now.Reading) (s : Span) :
    t.cut < (now.ago s).cut ↔ t.CutBefore (now.epochNanos - s.nanoseconds) :=
  (cut_lt_ago_iff_or hnow.nano_lt s).trans (or_iff_left fun h => ht.not_cut_lt_epoch h.2)

/-! ## Hours -/

/-- The count of nanoseconds since the epoch so many hours before an instant. -/
def hoursBefore (now : Instant) (hours : UInt64) : Int :=
  now.epochNanos - 3600 * hours.toNat * 1000000000

/-- A span of hours that had to be cut still cuts off what the hours do: nothing. -/
theorem cutBefore_hoursSpan_iff (t now : Instant) (hours : UInt64) :
    t.CutBefore (now.epochNanos - (hoursSpan hours).nanoseconds) ↔
      t.CutBefore (now.hoursBefore hours) := by
  have hspan : (hoursSpan hours).nanoseconds =
      min (hours.toNat * 3600) 18446744073709551615 * 1000000000 := rfl
  unfold hoursBefore
  by_cases hfits : hours.toNat * 3600 ≤ 18446744073709551615
  · have hexact : ((hoursSpan hours).nanoseconds : Int) = 3600 * hours.toNat * 1000000000 := by
      rw [hspan, Nat.min_eq_left hfits]
      omega
    rw [hexact]
  · have hlate := now.epochNanos_bounds.2
    refine iff_of_false (t.not_cutBefore_of_le ?_) (t.not_cutBefore_of_le ?_)
    · rw [hspan, Nat.min_eq_right (by omega)]
      omega
    · omega

end EgressWatch.Time.Instant
