import EgressWatch.Proofs.Store.Log
import EgressWatch.Proofs.Time.Shift

/-!
# Tables filled in the order of time

Where time does not go back from one snapshot to the next (`InOrder`), the newest rows are the last
ones: they are shown in the reverse order of saving, be their stamps equal or not
(`Lists.statusesSince`, `Lists.speedTestsSince`).

Sorting such rows newest first is reading them backwards (`ranked_eq_reverse`): an earlier row has
no later stamp, and where stamps are equal it has the smaller number. So the rows of a window are
those of the snapshots since its start, in order (`since`), and cutting them off after so many is
the same before and after they are read (`Lists.shown`). A snapshot whose text does not read back
takes up its place all the same, which is why speed tests are shown as they read back (`readBack`).
-/

namespace EgressWatch.Store

open Time

/-- Time does not go back along a log of the years 0 to 9999. -/
structure InOrder (log : List Snapshot) : Prop where
  plain : ∀ s ∈ log, s.takenAt.PlainYear
  onward : log.Pairwise fun s later => ¬ later.takenAt < s.takenAt

/-- What a text reads back as under the tag of a snapshot, seen by a view. -/
def readBack {α : Type} (view : Snapshot → Option α) (s : Snapshot) : Option α :=
  (Snapshot.decode s.kind s.encode).toOption.bind view

/-- The snapshots of a kind from an instant on, to the microsecond. -/
def since (kind : Snapshot.Kind) (start : Instant) (log : List Snapshot) : List Snapshot :=
  log.filter fun s => s.kind == kind && !decide (s.takenAt.cut < start.cut)

theorem mem_since {kind : Snapshot.Kind} {start : Instant} {log : List Snapshot} {s : Snapshot}
    (h : s ∈ since kind start log) : s.kind = kind := by
  simp only [since, List.mem_filter, Bool.and_eq_true, beq_iff_eq] at h
  exact h.2.1

/-- What can be kept without loss reads back as it was. -/
theorem readBack_eq {α : Type} (view : Snapshot → Option α) {s : Snapshot} (h : s.Faithful) :
    readBack view s = view s := by
  rw [readBack, Snapshot.decode_encode h]
  rfl

section Chronicle

variable {t : Table} {log : List Snapshot} {start : Instant}

/-- The rows of a kind hold the texts of its snapshots, in the order of saving. -/
theorem Lists.payloads (h : Lists t log) (kind : Snapshot.Kind) :
    (t.rows.filter (·.kind == .text kind.tag)).map (·.payload) =
      ((log.filter (·.kind == kind)).map Snapshot.encode).map .text := by
  obtain ⟨es, hlog, hrows⟩ := h.rows
  have hkind : ((fun r : Row => r.kind == .text kind.tag) ∘ rowOf) =
      (fun s : Snapshot => s.kind == kind) ∘ (·.2) := funext fun e => rowOf_kind e kind
  rw [hrows, ← hlog, List.filter_map, List.filter_map, hkind, List.map_map, List.map_map,
    List.map_map]
  rfl

/-- The newest rows are the last ones. -/
theorem ranked_eq_reverse {rows : List Row} (hnumbered : Numbered rows)
    (honward : rows.Pairwise fun a b => b.created.before a.created = false) :
    rows.mergeSort Row.newer = rows.reverse := by
  refine hnumbered.mergeSort_eq rows.reverse_perm.symm (List.pairwise_reverse.mpr ?_)
  refine (hnumbered.and honward).imp fun {a b} ⟨hid, hbefore⟩ => ?_
  rw [Row.newer_of_id_le (Int.le_of_lt hid), hbefore]
  rfl

/-- The rows that are shown are the last ones of the window, the very last first. -/
theorem Lists.shown {α : Type} (h : Lists t log) (horder : InOrder log)
    (view : Snapshot → Option α) (kind : Snapshot.Kind) (hstart : start.date.year ≤ 9999)
    (limit : Nat) : ((t.ranked kind start).take limit).filterMap (Row.shown? view) =
      ((since kind start log).reverse.take limit).filterMap (readBack view) := by
  obtain ⟨es, hlog, hrows⟩ := h.rows
  have hplain : ∀ e ∈ es, e.2.takenAt.PlainYear := fun e he =>
    horder.plain e.2 (hlog ▸ List.mem_map_of_mem he)
  have hwindow := window_rows hrows hplain kind hstart
  have honward : (t.window kind start).Pairwise fun a b => b.created.before a.created = false := by
    have hes : es.Pairwise fun e later => ¬ later.2.takenAt < e.2.takenAt := by
      have := horder.onward
      rwa [← hlog, List.pairwise_map] at this
    rw [hwindow, List.pairwise_map]
    refine List.Pairwise.filter _ (hes.imp_of_mem fun {e later} he hlater hle => ?_)
    have hbefore := before_stampCell (hplain later hlater) (hplain e he).2
    exact hbefore.trans (decide_eq_false (Instant.cut_le_cut hle))
  have hnumbered : Numbered (t.window kind start) := h.numbered.filter _
  rw [Table.ranked, ranked_eq_reverse hnumbered honward, hwindow, since, ← hlog,
    List.filter_map, ← List.map_reverse, ← List.map_reverse, ← List.map_take, ← List.map_take,
    List.filterMap_map, List.filterMap_map]
  refine List.filterMap_congr fun e he => ?_
  have hmem : e ∈ es := by
    have := List.mem_of_mem_take he
    rw [List.mem_reverse] at this
    exact List.mem_of_mem_filter this
  exact shown?_rowOf_eq view (hplain e hmem)

/-- The statuses of a window are shown as they were saved. -/
theorem Lists.statusesSince (h : Lists t log) (horder : InOrder log)
    (hstart : start.date.year ≤ 9999) : t.statusesSince start =
      ((since .status start log).reverse.take 100).filterMap Snapshot.status? := by
  rw [Table.statusesSince_eq, h.shown horder Snapshot.status? .status hstart]
  refine List.filterMap_congr fun s hs => readBack_eq _ ?_
  have hkind := mem_since (List.mem_reverse.mp (List.mem_of_mem_take hs))
  cases s with
  | status s => trivial
  | speedTest t => exact absurd hkind nofun

/-- The speed tests of a window are shown as far as they read back. -/
theorem Lists.speedTestsSince (h : Lists t log) (horder : InOrder log)
    (hstart : start.date.year ≤ 9999) : t.speedTestsSince start =
      ((since .speedTest start log).reverse.take 50).filterMap
        (readBack Snapshot.speedTest?) := by
  rw [Table.speedTestsSince_eq, h.shown horder Snapshot.speedTest? .speedTest hstart]

end Chronicle

end EgressWatch.Store
