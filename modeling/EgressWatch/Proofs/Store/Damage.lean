import EgressWatch.Proofs.Store.Answer
import Mathlib.Data.List.Basic

/-!
# Damaged rows

Damaged rows are not shown, but they are passed over only after the newest rows have been cut off,
so each of them takes up one of the places there are. What is left out for that is the end of the
answer, never its front:

> `damage_unnoticed_iff`: damaged rows make no difference exactly if none of the newest rows is
> damaged or all rows beyond these are.

The answer is compared with that of the table without its damaged rows (`Table.undamaged`). Taking
them away changes nothing about the order of the others (`ranked_undamaged`), and a row is damaged
exactly if nothing is shown of it (`shown?_isSome`); so the question is whether cutting a list and
then reading it is reading it and then cutting, with members that may not read. For lists that is
`filterMap_take_eq_iff`, and for answers `answer_eq_iff`.

`damage_hides_good_history` is the other case: one hundred damaged rows hide all statuses before
them.
-/

namespace EgressWatch.Store

open Time

/-! ## Damage -/

/-- The row has the tag of a kind and holds no snapshot of it that can be read: there are bytes
where text belongs, the stamp is none, or the text does not decode. -/
def Row.isDamaged (kind : Snapshot.Kind) (r : Row) : Bool :=
  r.kind == .text kind.tag &&
    match r.payload, r.created with
    | .text payload, .text created =>
      (Instant.ofStamp? created.toList).isNone || !(Snapshot.decode kind payload).isOk
    | _, _ => true

/-- The table without the damaged rows of a kind. -/
def Table.undamaged (kind : Snapshot.Kind) (t : Table) : Table :=
  ⟨t.rows.filter fun r => !r.isDamaged kind⟩

/-- What is read under a tag is of the kind of that tag. -/
theorem kind_eq_of_decode {kind : Snapshot.Kind} {text : String} {s : Snapshot}
    (h : Snapshot.decode kind text = .ok s) : s.kind = kind := by
  cases kind with
  | status =>
    cases hs : Status.decode text with
    | error fault => simp [Snapshot.decode, hs, Except.map] at h
    | ok a =>
      simp only [Snapshot.decode, hs, Except.map, Except.ok.injEq] at h
      rw [← h]
      rfl
  | speedTest =>
    cases ht : SpeedTest.decode text with
    | error fault => simp [Snapshot.decode, ht, Except.map] at h
    | ok a =>
      simp only [Snapshot.decode, ht, Except.map, Except.ok.injEq] at h
      rw [← h]
      rfl

section View

variable {α : Type} {view : Snapshot → Option α} {kind : Snapshot.Kind}

/-- Of the rows of a kind, the damaged ones are those of which nothing is shown. -/
theorem shown?_isSome (hview : ∀ s, s.kind = kind ↔ (view s).isSome) {r : Row}
    (hr : r.kind = .text kind.tag) : (r.shown? view).isSome = !r.isDamaged kind := by
  obtain ⟨id, tag, payload, created⟩ := r
  cases hr
  cases payload with
  | blob bytes => simp [Row.shown?, Row.read?, Row.isDamaged, Cell.text?]
  | text payload =>
    cases created with
    | blob bytes => simp [Row.shown?, Row.read?, Row.isDamaged, Cell.text?]
    | text created =>
      cases hc : Instant.ofStamp? created.toList with
      | none => simp [Row.shown?, Row.read?, Row.isDamaged, Cell.text?, hc]
      | some at_ =>
        cases hd : Snapshot.decode kind payload with
        | error fault =>
          simp [Row.shown?, Row.read?, Row.isDamaged, Cell.text?, hc, hd, Stored.decode,
            Except.toOption, Except.isOk, Except.toBool]
        | ok s =>
          have hs := (hview s).mp (kind_eq_of_decode hd)
          simpa [Row.shown?, Row.read?, Row.isDamaged, Cell.text?, hc, hd, Stored.decode,
            Except.toOption, Except.isOk, Except.toBool] using hs

/-- Without the damaged rows the others are ranked as before. -/
theorem ranked_undamaged (t : Table) (since : Instant) :
    (t.undamaged kind).ranked kind since =
      (t.ranked kind since).filter fun r => !r.isDamaged kind := by
  have hwindow : (t.undamaged kind).window kind since =
      (t.window kind since).filter fun r => !r.isDamaged kind := by
    rw [Table.window, Table.window, Table.undamaged, List.filter_filter, List.filter_filter]
    exact List.filter_congr fun r _ => Bool.and_comm ..
  rw [Table.ranked, hwindow, Table.ranked, mergeSort_filter]

end View

/-! ## Cutting before reading -/

section Cutting

variable {α β : Type} {f : α → Option β} {l : List α} {n : Nat}

/-- What is read of the front of a list comes first; what is read of the rest fills the places
that are left. -/
theorem take_filterMap_eq : (l.filterMap f).take n = (l.take n).filterMap f ++
    ((l.drop n).filterMap f).take (n - ((l.take n).filterMap f).length) := by
  have hlen : ((l.take n).filterMap f).length ≤ n :=
    Nat.le_trans (List.length_filterMap_le f _) (List.length_take_le n l)
  conv => lhs; rw [← List.take_append_drop n l, List.filterMap_append, List.take_append]
  rw [List.take_of_length_le hlen]

/-- Cut before it is read, a list reads as the same if all that is left of it can be read or
nothing that was cut off can, and only then. -/
theorem filterMap_take_eq_iff : (l.take n).filterMap f = (l.filterMap f).take n ↔
    (∀ a ∈ l.take n, (f a).isSome) ∨ ∀ a ∈ l.drop n, f a = none := by
  -- either no places are left, or there is nothing to fill them with
  rw [take_filterMap_eq, List.self_eq_append_right, List.take_eq_nil_iff,
    List.filterMap_eq_nil_iff]
  have hread : ((l.take n).filterMap f).length = (l.take n).length ↔
      ∀ a ∈ l.take n, (f a).isSome := List.filterMap_length_eq_length
  have hlen : ((l.take n).filterMap f).length ≤ (l.take n).length := List.length_filterMap_le f _
  have htake : (l.take n).length = min n l.length := List.length_take
  constructor
  · rintro (hfull | hrest)
    · exact .inl (hread.mp (by omega))
    · exact .inr hrest
  · rintro (hall | hrest)
    · have hall := hread.mpr hall
      by_cases hn : n ≤ l.length
      · exact .inl (by omega)
      · right
        rw [List.drop_of_length_le (by omega)]
        simp
    · exact .inr hrest

end Cutting

/-! ## Answers -/

section View

variable {α : Type} {view : Snapshot → Option α} {kind : Snapshot.Kind}

theorem shown?_isSome_of_ranked (hview : ∀ s, s.kind = kind ↔ (view s).isSome) {t : Table}
    {since : Instant} {r : Row} (hr : r ∈ t.ranked kind since) :
    (r.shown? view).isSome = !r.isDamaged kind :=
  shown?_isSome hview (Table.mem_window.mp (Table.mem_ranked.mp hr)).2.1

/-- Without the damaged rows, the answer is the newest of all that can be read. -/
theorem answer_undamaged (hview : ∀ s, s.kind = kind ↔ (view s).isSome) (t : Table)
    (since : Instant) (limit : Nat) :
    (((t.undamaged kind).ranked kind since).take limit).filterMap (Row.shown? view) =
      ((t.ranked kind since).filterMap (Row.shown? view)).take limit := by
  rw [ranked_undamaged, filterMap_take, List.filterMap_filter]
  · refine congrArg (List.take limit) (List.filterMap_congr fun r hr => ?_)
    have hshown := shown?_isSome_of_ranked hview hr
    cases hd : r.isDamaged kind with
    | false => simp
    | true =>
      rw [hd] at hshown
      have hnone : r.shown? view = none := by simpa using hshown
      simp [hnone]
  · intro r hr
    obtain ⟨hr, hgood⟩ := List.mem_filter.mp hr
    rw [shown?_isSome_of_ranked hview hr]
    exact hgood

/-- The damaged rows make no difference if none of the newest rows is damaged or none of the others
is good, and only then. -/
theorem answer_eq_iff (hview : ∀ s, s.kind = kind ↔ (view s).isSome) (t : Table)
    (since : Instant) (limit : Nat) :
    ((t.ranked kind since).take limit).filterMap (Row.shown? view) =
        (((t.undamaged kind).ranked kind since).take limit).filterMap (Row.shown? view) ↔
      (∀ r ∈ (t.ranked kind since).take limit, r.isDamaged kind = false) ∨
        ∀ r ∈ (t.ranked kind since).drop limit, r.isDamaged kind = true := by
  have hshown {r : Row} (hr : r ∈ t.ranked kind since) := shown?_isSome_of_ranked hview hr
  rw [answer_undamaged hview, filterMap_take_eq_iff]
  refine or_congr (forall₂_congr fun r hr => ?_) (forall₂_congr fun r hr => ?_)
  · rw [hshown (List.mem_of_mem_take hr), Bool.not_eq_true']
  · rw [← Option.not_isSome_iff_eq_none, hshown (List.mem_of_mem_drop hr)]
    simp

end View

/-- Damaged rows go unnoticed if none of them is among the newest rows of the window or all rows
beyond these are damaged too, and only then: otherwise they hide good rows. Here the newest are as
many as are shown at once, damaged or not. -/
theorem damage_unnoticed_iff (t : Table) (since : Instant) :
    (t.statusesSince since = (t.undamaged .status).statusesSince since ↔
      (∀ r ∈ (t.ranked .status since).take 100, r.isDamaged .status = false) ∨
        ∀ r ∈ (t.ranked .status since).drop 100, r.isDamaged .status = true) ∧
    (t.speedTestsSince since = (t.undamaged .speedTest).speedTestsSince since ↔
      (∀ r ∈ (t.ranked .speedTest since).take 50, r.isDamaged .speedTest = false) ∨
        ∀ r ∈ (t.ranked .speedTest since).drop 50, r.isDamaged .speedTest = true) := by
  rw [Table.statusesSince_eq, Table.statusesSince_eq, Table.speedTestsSince_eq,
    Table.speedTestsSince_eq]
  exact ⟨answer_eq_iff kind_status_iff t since 100, answer_eq_iff kind_speedTest_iff t since 50⟩

/-! ## A crowd of damaged rows -/

/-- A status of noon on the first of January 2024. -/
def oldStatus : Status :=
  ⟨"192.0.2.1", "198.51.100.7", "", "", true, true, 42, none, none,
    { day := 19723, second := 43200, nano := 0 }⟩

/-- A row under the tag of statuses that was written a second later and is no JSON. -/
def brokenRow (i : Nat) : Row :=
  ⟨i + 2, .text "status", .text "\x7b", stampCell { day := 19723, second := 43201, nano := 0 }⟩

/-- The status and, after it, a number of broken rows. -/
def crowd (n : Nat) : Table := ⟨rowOf (1, .status oldStatus) :: (List.range n).map brokenRow⟩

theorem isDamaged_brokenRow (i : Nat) : (brokenRow i).isDamaged .status = true := by
  show (Cell.text "status" == .text "status" && _) = true
  have hdecode : (Snapshot.decode .status "\x7b").isOk = false := rfl
  simp [brokenRow, stampCell, hdecode]

theorem before_brokenRow (i : Nat) :
    (brokenRow i).created.before (stampCell oldStatus.checkedAt) = false := by
  have hlater : Instant.PlainYear { day := 19723, second := 43201, nano := 0 } := by decide
  have hold : oldStatus.checkedAt.date.year ≤ 9999 := by decide
  exact (before_stampCell hlater hold).trans (by decide)

theorem numbered_crowd (n : Nat) : Numbered (crowd n).rows := by
  refine List.pairwise_cons.mpr ⟨fun r hr => ?_, ?_⟩
  · obtain ⟨i, -, rfl⟩ := List.mem_map.mp hr
    show (1 : Int) < i + 2
    omega
  · refine List.pairwise_map.mpr (List.pairwise_lt_range.imp fun {i j} h => ?_)
    show (i : Int) + 2 < j + 2
    omega

/-- The broken rows are ranked before the status. -/
theorem ranked_crowd (n : Nat) : (crowd n).ranked .status oldStatus.checkedAt =
    ((List.range n).map brokenRow).reverse ++ [rowOf (1, .status oldStatus)] := by
  have hwindow : (crowd n).window .status oldStatus.checkedAt = (crowd n).rows := by
    refine List.filter_eq_self.mpr fun r hr => ?_
    rcases List.mem_cons.mp hr with rfl | hr
    · have hself : (rowOf (1, .status oldStatus)).created.before
          (stampCell oldStatus.checkedAt) = false := Cell.before_irrefl _
      rw [hself]
      rfl
    · obtain ⟨i, -, rfl⟩ := List.mem_map.mp hr
      rw [before_brokenRow]
      rfl
  rw [Table.ranked, hwindow, (numbered_crowd n).mergeSort_reverse, List.mergeSort_of_pairwise]
  · rw [crowd, List.reverse_cons]
  · rw [List.pairwise_reverse]
    refine List.pairwise_cons.mpr ⟨fun r hr => ?_, ?_⟩
    · obtain ⟨i, -, rfl⟩ := List.mem_map.mp hr
      have hid : (rowOf (1, .status oldStatus)).id ≤ (brokenRow i).id := by
        show (1 : Int) ≤ i + 2
        omega
      rw [Row.newer_of_id_le hid]
      exact congrArg (!·) (before_brokenRow i)
    · refine List.pairwise_map.mpr (List.pairwise_lt_range.imp fun {i j} h => ?_)
      have hid : (brokenRow i).id ≤ (brokenRow j).id := by
        show (i : Int) + 2 ≤ j + 2
        omega
      rw [Row.newer_of_id_le hid]
      exact congrArg (!·) (Cell.before_irrefl _)

/-- One hundred broken rows hide a good status that would be shown without them. -/
theorem damage_hides_good_history :
    (crowd 100).statusesSince oldStatus.checkedAt = [] ∧
      ((crowd 100).undamaged .status).statusesSince oldStatus.checkedAt = [oldStatus] := by
  have hgood : (rowOf (1, .status oldStatus)).shown? Snapshot.status? = some oldStatus :=
    shown?_rowOf Snapshot.status? (by decide) trivial
  have hbroken : ((List.range 100).map brokenRow).reverse.filterMap
      (Row.shown? Snapshot.status?) = [] := by
    refine List.filterMap_eq_nil_iff.mpr fun r hr => ?_
    obtain ⟨i, -, rfl⟩ := List.mem_map.mp (List.mem_reverse.mp hr)
    have hshown := shown?_isSome kind_status_iff (r := brokenRow i) rfl
    rw [isDamaged_brokenRow] at hshown
    simpa using hshown
  constructor
  · rw [Table.statusesSince_eq, ranked_crowd, List.take_left' (by simp), hbroken]
  · rw [Table.statusesSince_eq, answer_undamaged kind_status_iff, ranked_crowd,
      List.filterMap_append, hbroken]
    simp [hgood]

end EgressWatch.Store
