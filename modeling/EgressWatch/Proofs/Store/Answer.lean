import EgressWatch.Proofs.Snapshot.RoundTrip
import EgressWatch.Proofs.Store.Order
import EgressWatch.Store.Database

/-!
# What a table answers

The answer about a kind is made in three steps: the rows of the kind in the window (`Table.window`),
sorted newest first (`Table.ranked`); the first of them, as many as are shown at once; and of these
the snapshots that can be read (`Row.shown?`). The steps come in this order, so a row that cannot be
read still takes up a place:

> `statusesSince_eq`, `speedTestsSince_eq`: cut, then read.

All that is said about answers starts from these two equations. Of a row that was written by the
store one knows more. Its stamp compares as its instant does, to the microsecond
(`before_stampCell`), and it shows the snapshot that it was made of, as long as that can be kept
without loss (`shown?_rowOf`).
-/

namespace EgressWatch.Store

open Time

/-- What is shown of a row, if it can be read. -/
def Row.shown? {α : Type} (view : Snapshot → Option α) (r : Row) : Option α :=
  r.read?.bind fun s => s.decode.toOption.bind view

namespace Table

/-- The rows of a kind with a stamp from an instant on. -/
def window (t : Table) (kind : Snapshot.Kind) (since : Instant) : List Row :=
  t.rows.filter fun r => r.kind == .text kind.tag && !r.created.before (stampCell since)

theorem mem_window {t : Table} {kind : Snapshot.Kind} {since : Instant} {r : Row} :
    r ∈ t.window kind since ↔
      r ∈ t.rows ∧ r.kind = .text kind.tag ∧ r.created.before (stampCell since) = false := by
  simp [window]

/-- The rows of a kind with a stamp from an instant on, newest first. -/
def ranked (t : Table) (kind : Snapshot.Kind) (since : Instant) : List Row :=
  (t.window kind since).mergeSort Row.newer

theorem mem_ranked {t : Table} {kind : Snapshot.Kind} {since : Instant} {r : Row} :
    r ∈ t.ranked kind since ↔ r ∈ t.window kind since := List.mem_mergeSort

theorem select_eq (t : Table) (kind : Snapshot.Kind) (since : Instant) {limit : UInt64}
    (h : limit ≤ 9223372036854775807) :
    t.select kind since limit = (t.ranked kind since).take limit.toNat := by
  have hlimit : ¬ 9223372036854775807 < limit := by
    rw [UInt64.lt_iff_toNat_lt]
    rw [UInt64.le_iff_toNat_le] at h
    omega
  rw [select, limited, if_neg hlimit]
  rfl

theorem statusesSince_eq (t : Table) (since : Instant) :
    t.statusesSince since =
      ((t.ranked .status since).take 100).filterMap (Row.shown? Snapshot.status?) := by
  rw [statusesSince, list, List.filterMap_filterMap, select_eq t .status since (by decide)]
  rfl

theorem speedTestsSince_eq (t : Table) (since : Instant) :
    t.speedTestsSince since =
      ((t.ranked .speedTest since).take 50).filterMap (Row.shown? Snapshot.speedTest?) := by
  rw [speedTestsSince, list, List.filterMap_filterMap, select_eq t .speedTest since (by decide)]
  rfl

end Table

theorem kind_status_iff (s : Snapshot) : s.kind = .status ↔ s.status?.isSome := by
  cases s <;> simp [Snapshot.kind, Snapshot.status?]

theorem kind_speedTest_iff (s : Snapshot) : s.kind = .speedTest ↔ s.speedTest?.isSome := by
  cases s <;> simp [Snapshot.kind, Snapshot.speedTest?]

/-! ## Stamps -/

/-- Cells with stamps compare as the instants do, to the microsecond. -/
theorem before_stampCell {t bound : Instant} (ht : t.PlainYear) (hb : bound.date.year ≤ 9999) :
    (stampCell t).before (stampCell bound) = decide (t.cut < bound.cut) := by
  have hiff := Instant.microStamp_lt_iff ht hb
  show decide (String.ofList t.microStamp < String.ofList bound.microStamp) = _
  rw [decide_eq_decide, ← hiff]
  show (String.ofList t.microStamp).toList < (String.ofList bound.microStamp).toList ↔ _
  rw [String.toList_ofList, String.toList_ofList]

/-! ## Rows of snapshots -/

/-- The row of a snapshot shows what its text reads back as. -/
theorem shown?_rowOf_eq {α : Type} (view : Snapshot → Option α) {e : Int × Snapshot}
    (ht : e.2.takenAt.PlainYear) :
    (rowOf e).shown? view = (Snapshot.decode e.2.kind e.2.encode).toOption.bind view := by
  have hread : (rowOf e).read? = some ⟨e.1, e.2.kind, e.2.encode, e.2.takenAt.cut⟩ := by
    simp [rowOf, Row.read?, stampCell, Cell.text?, Instant.ofStamp?_microStamp ht]
  rw [Row.shown?, hread]
  rfl

/-- The row of a snapshot shows the snapshot, if it can be kept without loss. -/
theorem shown?_rowOf {α : Type} (view : Snapshot → Option α) {e : Int × Snapshot}
    (ht : e.2.takenAt.PlainYear) (hf : e.2.Faithful) : (rowOf e).shown? view = view e.2 := by
  rw [shown?_rowOf_eq view ht, Snapshot.decode_encode hf]
  rfl

end EgressWatch.Store
