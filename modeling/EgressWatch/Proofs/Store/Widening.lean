import EgressWatch.Proofs.Store.Pruning
import EgressWatch.Proofs.Time.Cutoff
import Mathlib.Data.List.Infix

/-!
# Widening a window

Of two bounds, the one whose stamp comes first lets in all rows that the other one does, and behind
them its own (`ranked_split`); so its answers begin as those of the other one do, and it prunes
less. A wider window should lead to such a bound. It does so as long as the calendar reaches back by
it. Where it does not, the way back ends at the epoch, and rows from before the epoch that a
narrower window shows are lost to it. They are lost too when the clock has left the year 9999:
stamps get a sign then, which comes before all digits, so that windows lose everything once they
reach back into the years of four digits.

> `widening_exact`: a wider window answers with what a narrower one answers with, and more behind
> it, exactly if nothing is shown of the newest rows that are `Lost` to it; and it removes no more
> exactly if no row is.

`Instant.Lost` tells these two ways of an instant alone, without stamps; that they are all the ways
is `lost_iff`, by what becomes of the two bounds in each case. For the rows of a table, whose stamps
are of the years 0 to 9999 (`Dated`), what is lost is what the narrower window lets in and the wider
one does not (`Dated.before_iff_lost`). Answers are cut to the newest rows, so a lost row matters
only if it is among these and something is shown of it (`shown_prefix_iff`).

Nothing since the epoch is lost before the end of the year 9999 (`not_lost_of_sinceEpoch`), but a
status of the year 1900 is (`widening_loses_status`).
-/

namespace EgressWatch.Time.Instant

/-- Between two spans, `u` is lost to the wider one: it lies before the epoch, which is where the
wider one leads because the calendar does not reach back by it, and not before what the narrower one
leads to; or the narrower one still leads beyond the year 9999, and `u` lies before what the wider
one leads to. -/
def Lost (now : Instant) (narrow wide : Span) (u : Instant) : Prop :=
  (¬ now.Reaches wide ∧ u.cut < epoch.cut ∧ ¬ u.cut < (now.ago narrow).cut) ∨
    (9999 < (now.ago narrow).date.year ∧ (now.ago wide).date.year ≤ 9999 ∧
      u.cut < (now.ago wide).cut)

/-- Instants of a later year come later, to the microsecond. -/
theorem cut_lt_cut_of_year_lt {a b : Instant} (h : a.date.year < b.date.year) : a.cut < b.cut := by
  have hday : a.day < b.day := by
    by_cases hle : b.day ≤ a.day
    · have hyear := year_le_of_day_le hle
      omega
    · omega
  exact cut_lt_cut.mpr (.inl hday)

end EgressWatch.Time.Instant

namespace EgressWatch.Store

open Time

/-! ## Stamps -/

/-- A bound has the stamps of earlier instants before it if its year is at most 9999, and none
otherwise. -/
theorem before_stampCell_iff {t : Instant} (ht : t.PlainYear) (bound : Instant) :
    (stampCell t).before (stampCell bound) = true ↔
      bound.date.year ≤ 9999 ∧ t.cut < bound.cut := by
  by_cases hb : bound.date.year ≤ 9999
  · rw [before_stampCell ht hb, decide_eq_true_eq]
    exact (and_iff_right hb).symm
  · have hsigned : ¬ bound.PlainYear := fun hplain => hb hplain.2
    have hlt : (stampCell bound).before (stampCell t) = true := by
      show decide (String.ofList bound.microStamp < String.ofList t.microStamp) = true
      rw [decide_eq_true_eq]
      show (String.ofList bound.microStamp).toList < (String.ofList t.microStamp).toList
      rw [String.toList_ofList, String.toList_ofList]
      exact Instant.microStamp_lt_of_signed hsigned ht
    rw [Cell.before_asymm hlt]
    exact iff_of_false Bool.false_ne_true fun h => hb h.1

/-- What is lost to a wider window has a stamp that the narrower one lets in and the wider one does
not. -/
theorem lost_iff {now u : Instant} (hnow : now.nano < nanosPerSecond) (hu : u.PlainYear)
    {narrow wide : Span} (hw : narrow ≤ wide) : now.Lost narrow wide u ↔
      (stampCell u).before (stampCell (now.ago narrow)) = false ∧
        (stampCell u).before (stampCell (now.ago wide)) = true := by
  rw [← Bool.not_eq_true, before_stampCell_iff hu, before_stampCell_iff hu]
  by_cases hlong : 9999 < (now.ago narrow).date.year
  · have hbelow : u.cut < (now.ago narrow).cut :=
      Instant.cut_lt_cut_of_year_lt (Int.lt_of_le_of_lt hu.2 hlong)
    constructor
    · rintro (⟨-, -, hin⟩ | ⟨-, hout⟩)
      · exact absurd hbelow hin
      · exact ⟨fun h => absurd h.1 (by omega), hout⟩
    · rintro ⟨-, hout⟩
      exact .inr ⟨hlong, hout⟩
  · have hyear : (now.ago narrow).date.year ≤ 9999 := by omega
    by_cases hreach : now.Reaches wide
    -- the wider window leads no further forward than the narrower one, so nothing is lost
    · have hirrefl : ¬ now < now := by
        rw [Instant.lt_def]
        omega
      have hcut := Instant.cut_le_cut (hreach.not_ago_lt hnow hnow hirrefl hw)
      constructor
      · rintro (⟨hnot, -, -⟩ | ⟨hyear', -⟩)
        · exact absurd hreach hnot
        · exact absurd hyear' hlong
      · rintro ⟨hin, -, hout⟩
        have hbelow : u.cut < (now.ago narrow).cut := by
          rw [Instant.lt_def] at hout hcut ⊢
          omega
        exact absurd ⟨hyear, hbelow⟩ hin
    · rw [Instant.ago_of_not_reaches hreach]
      constructor
      · rintro (⟨-, hout, hin⟩ | ⟨hyear', -⟩)
        · exact ⟨fun h => hin h.2, by decide, hout⟩
        · exact absurd hyear' hlong
      · rintro ⟨hin, -, hout⟩
        exact .inl ⟨hreach, hout, fun h => hin ⟨hyear, h⟩⟩

/-! ## Two bounds -/

/-- If those with a property stand in front, a list is made of them and of the others. -/
theorem filter_append_filter_not {α : Type} {p : α → Bool} {l : List α}
    (h : l.Pairwise fun a b => p b → p a) : l.filter p ++ l.filter (fun a => !p a) = l := by
  induction l with
  | nil => rfl
  | cons a l ih =>
    obtain ⟨ha, hl⟩ := List.pairwise_cons.mp h
    cases hp : p a with
    | true => simp [hp, ih hl]
    | false =>
      have hnone : ∀ b ∈ l, p b = false := by
        intro b hb
        cases hb' : p b with
        | false => rfl
        | true => exact absurd (ha b hb hb') (by simp [hp])
      have hfront : l.filter p = [] := by simpa using hnone
      have hback : l.filter (fun a => !p a) = l := by simpa using hnone
      simp [hp, hfront, hback]

namespace Table

variable {t : Table} {kind : Snapshot.Kind} {low high : Instant}

/-- Of two bounds, the later one lets in a front of what the earlier one does. -/
theorem ranked_split (t : Table) (kind : Snapshot.Kind)
    (h : (stampCell high).before (stampCell low) = false) :
    t.ranked kind low = t.ranked kind high ++
      (t.ranked kind low).filter fun r => r.created.before (stampCell high) := by
  have hwindow : t.window kind high =
      (t.window kind low).filter fun r => !r.created.before (stampCell high) := by
    rw [window, window, List.filter_filter]
    refine List.filter_congr fun r _ => ?_
    cases hlow : r.created.before (stampCell low) with
    | false => simp [Bool.and_comm]
    | true => simp [Cell.before_of_le hlow h]
  have hhigh : t.ranked kind high =
      (t.ranked kind low).filter fun r => !r.created.before (stampCell high) := by
    rw [ranked, hwindow, mergeSort_filter, ranked]
  have hsorted : (t.ranked kind low).Pairwise fun a b =>
      !b.created.before (stampCell high) → !a.created.before (stampCell high) := by
    refine (List.pairwise_mergeSort Row.newer_trans Row.newer_total _).imp ?_
    intro a b hab hb
    rcases Row.newer_iff.mp hab with hbefore | ⟨hsame, -⟩
    · cases ha : a.created.before (stampCell high) with
      | false => rfl
      | true => rw [Cell.before_trans hbefore ha] at hb; exact hb
    · rw [hsame]
      exact hb
  have hparts := filter_append_filter_not hsorted
  simp only [Bool.not_not] at hparts
  rw [hhigh]
  exact hparts.symm

/-- One bound answers with a front of what another one answers with if it shows nothing of the rows
that the other one does not let in, and only then. -/
theorem shown_prefix_iff {α : Type} (f : Row → Option α) (n : Nat) (t : Table)
    (kind : Snapshot.Kind) (since other : Instant) :
    ((t.ranked kind since).take n).filterMap f <+: ((t.ranked kind other).take n).filterMap f ↔
      ∀ r ∈ (t.ranked kind since).take n, r.created.before (stampCell other) → f r = none := by
  have hin : ∀ bound, ∀ r ∈ t.ranked kind bound, r.created.before (stampCell bound) = false :=
    fun bound r hr => (mem_window.mp (mem_ranked.mp hr)).2.2
  cases h : (stampCell since).before (stampCell other) with
  | false =>
    have hfront : t.ranked kind since <+: t.ranked kind other :=
      ⟨_, (ranked_split t kind h).symm⟩
    refine iff_of_true ((hfront.take n).filterMap f) ?_
    intro r hr hbefore
    have hsince := hin since r (List.mem_of_mem_take hr)
    rw [Cell.before_of_le hbefore h] at hsince
    exact absurd hsince (by simp)
  | true =>
    rw [ranked_split t kind (Cell.before_asymm h), List.take_append, List.filterMap_append,
      List.forall_mem_append]
    have hnil : ∀ x y : List α, x ++ y <+: x ↔ y = [] := by
      intro x y
      constructor
      · intro hprefix
        have hlength := hprefix.length_le
        rw [List.length_append] at hlength
        exact List.length_eq_zero_iff.mp (by omega)
      · intro hy
        exact ⟨[], by rw [hy, List.append_nil, List.append_nil]⟩
    rw [hnil, List.filterMap_eq_nil_iff]
    constructor
    · intro hnone
      refine ⟨fun r hr hbefore => ?_, fun r hr _ => hnone r hr⟩
      rw [hin other r (List.mem_of_mem_take hr)] at hbefore
      exact absurd hbefore (by simp)
    · rintro ⟨-, hnone⟩ r hr
      exact hnone r hr (List.mem_filter.mp (List.mem_of_mem_take hr)).2

end Table

/-! ## Two windows -/

section Windows

variable {t : Table} {made : Row → Instant} {now : Instant} {narrow wide : Span}

/-- The rows bear the stamps of these instants of the years 0 to 9999. Nothing is said about their
tags and texts. -/
structure Dated (t : Table) (made : Row → Instant) : Prop where
  plainYear : ∀ r ∈ t.rows, (made r).PlainYear
  created : ∀ r ∈ t.rows, r.created = stampCell (made r)

/-- Of the rows in the narrower window, those whose stamps the wider one does not let in are lost.
-/
theorem Dated.before_iff_lost (h : Dated t made) (hnow : now.nano < nanosPerSecond)
    (hw : narrow ≤ wide) {kind : Snapshot.Kind} {r : Row}
    (hr : r ∈ t.ranked kind (now.ago narrow)) :
    r.created.before (stampCell (now.ago wide)) ↔ now.Lost narrow wide (made r) := by
  obtain ⟨hmem, -, hin⟩ := Table.mem_window.mp (Table.mem_ranked.mp hr)
  rw [lost_iff hnow (h.plainYear r hmem) hw, ← h.created r hmem, hin]
  exact (and_iff_right rfl).symm

theorem Dated.shown_prefix_iff {α : Type} (h : Dated t made) (hnow : now.nano < nanosPerSecond)
    (hw : narrow ≤ wide) (f : Row → Option α) (n : Nat) (kind : Snapshot.Kind) :
    ((t.ranked kind (now.ago narrow)).take n).filterMap f <+:
        ((t.ranked kind (now.ago wide)).take n).filterMap f ↔
      ∀ r ∈ (t.ranked kind (now.ago narrow)).take n, now.Lost narrow wide (made r) →
        f r = none := by
  rw [Table.shown_prefix_iff]
  refine forall₂_congr fun r hr => ?_
  rw [h.before_iff_lost hnow hw (List.mem_of_mem_take hr)]

/-- The wider window removes a row that the narrower one keeps if it is lost, and only then. -/
theorem Dated.pruned_iff_lost (h : Dated t made) (hnow : now.nano < nanosPerSecond)
    (hw : narrow ≤ wide) {r : Row} (hr : r ∈ t.rows) :
    r ∉ (t.unexpired (now.ago wide)).rows ∧ r ∈ (t.unexpired (now.ago narrow)).rows ↔
      now.Lost narrow wide (made r) := by
  rw [lost_iff hnow (h.plainYear r hr) hw, ← h.created r hr, Table.unexpired, Table.unexpired,
    List.mem_filter, List.mem_filter]
  simp [hr, and_comm]

/-- Nothing since the epoch is lost before the end of the year 9999. -/
theorem not_lost_of_sinceEpoch (hnow : now.Reading) {u : Instant} (hu : u.SinceEpoch) :
    ¬ now.Lost narrow wide u := by
  rintro (⟨-, hout, -⟩ | ⟨hyear, -, -⟩)
  · exact hu.not_cut_lt_epoch hout
  · have hle := hnow.year_ago_le narrow
    omega

end Windows

/-- For rows with stamps of the years 0 to 9999, a wider window answers with what a narrower one
answers with and more behind it exactly if nothing is shown of the rows among the newest that are
lost to it, and it removes no more exactly if no row is lost to it. From the epoch to the end of the
year 9999 none is. -/
theorem widening_exact {t : Table} {made : Row → Instant} (h : Dated t made) {now : Instant}
    (hnow : now.nano < nanosPerSecond) {narrow wide : Span} (hw : narrow ≤ wide) :
    (∃ fewer more, Database.recentStatuses ⟨some t⟩ now narrow = .ok fewer ∧
      Database.recentStatuses ⟨some t⟩ now wide = .ok more ∧
      (fewer <+: more ↔ ∀ r ∈ (t.ranked .status (now.ago narrow)).take 100,
        now.Lost narrow wide (made r) → r.shown? Snapshot.status? = none)) ∧
    (∃ fewer more, Database.recentSpeedTests ⟨some t⟩ now narrow = .ok fewer ∧
      Database.recentSpeedTests ⟨some t⟩ now wide = .ok more ∧
      (fewer <+: more ↔ ∀ r ∈ (t.ranked .speedTest (now.ago narrow)).take 50,
        now.Lost narrow wide (made r) → r.shown? Snapshot.speedTest? = none)) ∧
    (∃ n less m left, Database.pruneOlderThan ⟨some t⟩ now narrow = .ok (n, ⟨some less⟩) ∧
      Database.pruneOlderThan ⟨some t⟩ now wide = .ok (m, ⟨some left⟩) ∧
      ((∀ r ∈ t.rows, r ∉ left.rows → r ∉ less.rows) ↔
        ∀ r ∈ t.rows, ¬ now.Lost narrow wide (made r))) ∧
    (now.Reading → (∀ r ∈ t.rows, (made r).SinceEpoch) →
      ∀ r ∈ t.rows, ¬ now.Lost narrow wide (made r)) := by
  refine ⟨⟨_, _, rfl, rfl, ?_⟩, ⟨_, _, rfl, rfl, ?_⟩, ?_, ?_⟩
  · show t.statusesSince (now.ago narrow) <+: t.statusesSince (now.ago wide) ↔ _
    rw [Table.statusesSince_eq, Table.statusesSince_eq]
    exact h.shown_prefix_iff hnow hw _ 100 .status
  · show t.speedTestsSince (now.ago narrow) <+: t.speedTestsSince (now.ago wide) ↔ _
    rw [Table.speedTestsSince_eq, Table.speedTestsSince_eq]
    exact h.shown_prefix_iff hnow hw _ 50 .speedTest
  · refine ⟨_, _, _, _, Database.pruneBefore_some t _, Database.pruneBefore_some t _, ?_⟩
    refine forall₂_congr fun r hr => ?_
    rw [← h.pruned_iff_lost hnow hw hr, not_and]
  · intro hreading hsince r hr
    exact not_lost_of_sinceEpoch hreading (hsince r hr)

/-- In January of the year 10000 a status of the December before is shown for a window of one day,
whose bound has a signed stamp, and not for one of thirty days, which removes it too. -/
theorem widening_exact_year_10000 :
    let december : Instant := { day := 2932866, second := 0, nano := 0 }
    let now : Instant := { day := 2932900, second := 0, nano := 0 }
    let s : Status := ⟨"192.0.2.1", "198.51.100.7", "", "", true, true, 42, none, none, december⟩
    let t : Table := ⟨[rowOf (1, .status s)]⟩
    let narrow := Span.ofHours 24
    let wide := Span.ofHours 720
    Dated t (fun _ => december) ∧ now.nano < nanosPerSecond ∧ narrow ≤ wide ∧
      (∃ fewer more, Database.recentStatuses ⟨some t⟩ now narrow = .ok fewer ∧
        Database.recentStatuses ⟨some t⟩ now wide = .ok more ∧ ¬ fewer <+: more) ∧
      ∃ n less m left, Database.pruneOlderThan ⟨some t⟩ now narrow = .ok (n, ⟨some less⟩) ∧
        Database.pruneOlderThan ⟨some t⟩ now wide = .ok (m, ⟨some left⟩) ∧
        ¬ ∀ r ∈ t.rows, r ∉ left.rows → r ∉ less.rows := by
  intro december now s t narrow wide
  have hplain : december.PlainYear := by decide
  have hdated : Dated t fun _ => december := by
    refine ⟨fun _ _ => hplain, fun r hr => ?_⟩
    rw [List.mem_singleton.mp hr]
    rfl
  have hnow : now.nano < nanosPerSecond := by decide
  have hw : narrow ≤ wide := by decide
  have hlost : now.Lost narrow wide december := by
    right
    decide +kernel
  have hranked : t.ranked .status (now.ago narrow) = t.rows := by
    have hwindow : t.window .status (now.ago narrow) = t.rows := by decide +kernel
    rw [Table.ranked, hwindow]
    exact List.mergeSort_singleton _
  have hshown : (rowOf (1, .status s)).shown? Snapshot.status? = some s :=
    shown?_rowOf Snapshot.status? hplain trivial
  obtain ⟨⟨fewer, more, hfewer, hmore, hprefix⟩, -, ⟨n, less, m, left, hless, hleft, hpruned⟩, -⟩ :=
    widening_exact hdated hnow hw
  refine ⟨hdated, hnow, hw, ⟨fewer, more, hfewer, hmore, ?_⟩, n, less, m, left, hless, hleft, ?_⟩
  · intro h
    have hnone := hprefix.mp h (rowOf (1, .status s))
      (by rw [hranked]; exact List.mem_singleton_self _) hlost
    rw [hshown] at hnone
    exact absurd hnone nofun
  · intro h
    exact hpruned.mp h _ (List.mem_singleton_self _) hlost

/-- In the year 2024 a status of the year 1900 is shown for a window of two hundred years and kept
if what is older is removed. For the longest window that seconds in a word can tell it is not shown,
and it is removed. -/
theorem widening_loses_status :
    let made : Instant := { day := -25567, second := 0, nano := 0 }
    let now : Instant := { day := 19723, second := 43200, nano := 0 }
    let s : Status := ⟨"192.0.2.1", "198.51.100.7", "", "", true, true, 42, none, none, made⟩
    let t : Table := ⟨[rowOf (1, .status s)]⟩
    let narrow := Span.ofSeconds 6311520000
    let wide := Span.ofSeconds 18446744073709551615
    let draws : Draws := fun _ => 0
    made.PlainYear ∧ Database.empty.save draws (.status s) = .ok (1, ⟨some t⟩) ∧ narrow ≤ wide ∧
      Database.recentStatuses ⟨some t⟩ now narrow = .ok [s] ∧
      Database.recentStatuses ⟨some t⟩ now wide = .ok [] ∧
      Database.pruneOlderThan ⟨some t⟩ now narrow = .ok (0, ⟨some t⟩) ∧
      Database.pruneOlderThan ⟨some t⟩ now wide = .ok (1, ⟨some {}⟩) := by
  intro made now s t narrow wide draws
  have hplain : made.PlainYear := by decide
  have hkept : t.unexpired (now.ago narrow) = t := by decide +kernel
  have hgone : t.unexpired (now.ago wide) = {} := by decide +kernel
  have hwindow : t.window .status (now.ago narrow) = t.rows := by decide +kernel
  have hempty : t.window .status (now.ago wide) = [] := by decide +kernel
  have hshown : (rowOf (1, .status s)).shown? Snapshot.status? = some s :=
    shown?_rowOf Snapshot.status? hplain trivial
  refine ⟨hplain, rfl, by decide, ?_, ?_, ?_, ?_⟩
  · show Except.ok (t.statusesSince (now.ago narrow)) = _
    rw [Table.statusesSince_eq, Table.ranked, hwindow, List.mergeSort_singleton]
    exact congrArg Except.ok (List.filterMap_cons_some hshown)
  · show Except.ok (t.statusesSince (now.ago wide)) = _
    rw [Table.statusesSince_eq, Table.ranked, hempty, List.mergeSort_nil]
    rfl
  · refine (Database.pruneBefore_some t (now.ago narrow)).trans ?_
    have hnone : (t.expired (now.ago narrow)).length = 0 := by decide +kernel
    rw [hkept, hnone]
  · refine (Database.pruneBefore_some t (now.ago wide)).trans ?_
    have hone : (t.expired (now.ago wide)).length = 1 := by decide +kernel
    rw [hgone, hone]

end EgressWatch.Store
