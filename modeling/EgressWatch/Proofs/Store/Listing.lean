import EgressWatch.Proofs.Store.Answer
import EgressWatch.Proofs.Text.ByteOrder
import Mathlib.Data.List.Basic

/-!
# Listings

A listing takes the table as it is, whatever its rows hold. Tags and stamps are compared as bytes
and not read, so every row has its place in the order, and the first rows are cut off before any of
them is looked into. Only then are those left out that cannot be read.

> `listing_exact`: the rows of a kind from an instant on stand in one order, as many of them as the
> limit says are taken, and of these all are listed that can be read, each as it is.

So no row makes a listing fail, a row that is left out still takes up a place, and a larger limit
adds rows at the end and changes nothing before them. A limit beyond the largest signed word is
none, which no table is large enough to notice (`length_limited_le`).

The order is stated without the sorting that makes it. `Row.Precedes` says which of two rows stands
first, by the bytes of their stamps (`Cell.BytesBefore`) and then by their numbers; the ranked rows
stand in this order (`pairwise_ranked`), and they are just those in the window (`mem_ranked_iff`).
What is listed of a row is told by what its columns hold (`Row.listed?`), and agrees with how rows
are read (`Row.read?_eq_listed?`).
-/

namespace EgressWatch.Store

open Time

namespace Cell

/-- One cell comes before another in the order of bytes: texts by their UTF-8, and after all texts
the blobs. -/
def BytesBefore : Cell → Cell → Prop
  | text a, text b => Text.Utf8.encode a.toList < Text.Utf8.encode b.toList
  | text _, blob _ => True
  | blob _, text _ => False
  | blob a, blob b => a < b

theorem before_iff_bytesBefore {a b : Cell} : a.before b = true ↔ a.BytesBefore b := by
  cases a with
  | text s =>
    cases b with
    | text s' =>
      show decide (s < s') = true ↔ _
      rw [decide_eq_true_eq]
      exact Text.Utf8.encode_lt_encode_iff.symm
    | blob bytes => exact iff_of_true rfl trivial
  | blob bytes =>
    cases b with
    | text s => exact iff_of_false Bool.false_ne_true id
    | blob bytes' => exact decide_eq_true_iff

end Cell

namespace Row

/-- The row stands before another: its stamp is the greater one, or its number where stamps are the
same. -/
def Precedes (a b : Row) : Prop :=
  b.created.BytesBefore a.created ∨ (a.created = b.created ∧ b.id < a.id)

/-- The row has the tag of a kind and a stamp from an instant on. -/
def InWindow (kind : Snapshot.Kind) (since : Instant) (r : Row) : Prop :=
  r.kind = .text kind.tag ∧ ¬ r.created.BytesBefore (stampCell since)

/-- What is listed of a row: its number and its text as they are, and the instant that its stamp
tells. Of a row with a blob in place of either, or with a stamp that is none, nothing is. -/
def listed? (kind : Snapshot.Kind) (r : Row) : Option Stored :=
  match r.payload, r.created with
  | .text payload, .text stamp =>
    (Instant.ofStamp? stamp.toList).map fun createdAt => ⟨r.id, kind, payload, createdAt⟩
  | _, _ => none

theorem precedes_of_newer {a b : Row} (h : newer a b) (hid : a.id ≠ b.id) : a.Precedes b := by
  rcases newer_iff.mp h with hbefore | ⟨hsame, hle⟩
  · exact .inl (Cell.before_iff_bytesBefore.mp hbefore)
  · exact .inr ⟨hsame, by omega⟩

/-- A row with the tag of a kind reads as what is listed of it. -/
theorem read?_eq_listed? {kind : Snapshot.Kind} {r : Row} (h : r.kind = .text kind.tag) :
    r.read? = r.listed? kind := by
  obtain ⟨id, tag, payload, created⟩ := r
  obtain rfl : tag = .text kind.tag := h
  cases payload with
  | blob bytes => rfl
  | text payload =>
    cases created with
    | blob bytes => rfl
    | text stamp =>
      show ((Snapshot.Kind.ofTag? kind.tag).bind fun kind' =>
        (Instant.ofStamp? stamp.toList).bind fun createdAt =>
          some (Stored.mk id kind' payload createdAt)) =
        (Instant.ofStamp? stamp.toList).map fun createdAt => Stored.mk id kind payload createdAt
      rw [Snapshot.Kind.ofTag?_tag, Option.bind_some]
      cases Instant.ofStamp? stamp.toList with
      | none => rfl
      | some createdAt => rfl

theorem listed?_eq_some {kind : Snapshot.Kind} {r : Row} {s : Stored}
    (h : r.listed? kind = some s) : s.id = r.id ∧ s.kind = kind := by
  obtain ⟨id, tag, payload, created⟩ := r
  cases payload with
  | blob bytes => exact absurd h nofun
  | text payload =>
    cases created with
    | blob bytes => exact absurd h nofun
    | text stamp =>
      obtain ⟨createdAt, -, rfl⟩ := Option.map_eq_some_iff.mp h
      exact ⟨rfl, rfl⟩

end Row

/-! ## Limits -/

section Limits

variable {α : Type} {limit : UInt64}

theorem limited_of_le (h : limit ≤ 9223372036854775807) (xs : List α) :
    limited limit xs = xs.take limit.toNat :=
  if_neg (UInt64.not_lt.mpr h)

theorem limited_of_lt (h : 9223372036854775807 < limit) (xs : List α) : limited limit xs = xs :=
  if_pos h

/-- Cutting keeps the front. -/
theorem limited_prefix_self (limit : UInt64) (xs : List α) : limited limit xs <+: xs := by
  by_cases h : limit ≤ 9223372036854775807
  · rw [limited_of_le h]
    exact List.take_prefix _ _
  · have hall : limited limit xs = xs := limited_of_lt (UInt64.not_le.mp h) xs
    exact ⟨[], by rw [List.append_nil, hall]⟩

/-- Of two limits the larger one keeps what the other does, and more. -/
theorem limited_prefix_limited {less : UInt64} (h : less ≤ limit) (xs : List α) :
    limited less xs <+: limited limit xs := by
  by_cases hlimit : limit ≤ 9223372036854775807
  · rw [limited_of_le hlimit, limited_of_le (UInt64.le_trans h hlimit)]
    exact List.take_prefix_take_left (UInt64.le_iff_toNat_le.mp h)
  · rw [limited_of_lt (UInt64.not_le.mp hlimit)]
    exact limited_prefix_self less xs

/-- No more is kept than the limit says. A limit beyond the largest signed word keeps all there is,
which is no more as long as there are not more rows than such a word counts. -/
theorem length_limited_le {xs : List α} (h : limit ≤ 9223372036854775807 ∨
    xs.length ≤ 9223372036854775807) : (limited limit xs).length ≤ limit.toNat := by
  by_cases hlimit : limit ≤ 9223372036854775807
  · rw [limited_of_le hlimit]
    exact List.length_take_le _ _
  · have hlarge : 9223372036854775807 < limit.toNat :=
      UInt64.lt_iff_toNat_lt.mp (UInt64.not_le.mp hlimit)
    rw [limited_of_lt (UInt64.not_le.mp hlimit)]
    rcases h with h | h
    · exact absurd h hlimit
    · omega

end Limits

/-! ## Listings -/

namespace Table

variable {t : Table} {kind : Snapshot.Kind} {since : Instant}

theorem mem_ranked_iff {r : Row} :
    r ∈ t.ranked kind since ↔ r ∈ t.rows ∧ r.InWindow kind since := by
  rw [mem_ranked, mem_window, ← Bool.not_eq_true, Cell.before_iff_bytesBefore]
  rfl

/-- No two ranked rows have one number, and each stands before those after it. -/
theorem pairwise_ranked (h : Numbered t.rows) :
    (t.ranked kind since).Pairwise fun a b => a.id ≠ b.id ∧ a.Precedes b := by
  have hsorted : (t.ranked kind since).Pairwise fun a b => Row.newer a b :=
    List.pairwise_mergeSort Row.newer_trans Row.newer_total _
  have hwindow : (t.window kind since).Pairwise fun a b => a.id ≠ b.id :=
    (h.filter _).imp Int.ne_of_lt
  have hids : (t.ranked kind since).Pairwise fun a b => a.id ≠ b.id :=
    (List.mergeSort_perm _ _).pairwise_iff Ne.symm |>.mpr hwindow
  exact (hids.and hsorted).imp fun {a b} ⟨hid, hnewer⟩ => ⟨hid, Row.precedes_of_newer hnewer hid⟩

/-- A listing is made of the ranked rows, first cut and then read. -/
theorem list_eq (t : Table) (kind : Snapshot.Kind) (since : Instant) (limit : UInt64) :
    t.list kind since limit =
      (limited limit (t.ranked kind since)).filterMap (Row.listed? kind) := by
  show (limited limit (t.ranked kind since)).filterMap Row.read? = _
  refine List.filterMap_congr fun r hr => ?_
  have hranked : r ∈ t.ranked kind since := (limited_prefix_self limit _).subset hr
  exact Row.read?_eq_listed? (mem_ranked_iff.mp hranked).2.1

end Table

/-- A listing never fails for what a row holds. The rows with the tag of the kind and a stamp from
the instant on stand in one order, as many of them as the limit says are taken, and of these all are
listed that can be read, each as it is. So no row is listed twice, nothing of another kind is, there
are no more than the limit says, and with a smaller limit the front of the listing is left. -/
theorem listing_exact {t : Table} (h : Numbered t.rows) (kind : Snapshot.Kind) (since : Instant) :
    ∃ ranked : List Row, (∀ r, r ∈ ranked ↔ r ∈ t.rows ∧ r.InWindow kind since) ∧
      ranked.Pairwise Row.Precedes ∧
      ∀ limit : UInt64, ∃ entries : List Stored,
        Database.list ⟨some t⟩ kind since limit = .ok entries ∧
        (limit ≤ 9223372036854775807 →
          entries = (ranked.take limit.toNat).filterMap (Row.listed? kind)) ∧
        (9223372036854775807 < limit → entries = ranked.filterMap (Row.listed? kind)) ∧
        (entries.Pairwise fun s s' => s.id ≠ s'.id) ∧ (∀ s ∈ entries, s.kind = kind) ∧
        (limit ≤ 9223372036854775807 ∨ t.rows.length ≤ 9223372036854775807 →
          entries.length ≤ limit.toNat) ∧
        ∀ less ≤ limit, ∃ fewer, Database.list ⟨some t⟩ kind since less = .ok fewer ∧
          fewer <+: entries := by
  have hranked : (t.ranked kind since).Pairwise fun a b => a.id ≠ b.id ∧ a.Precedes b :=
    Table.pairwise_ranked h
  refine ⟨t.ranked kind since, fun r => Table.mem_ranked_iff, hranked.imp And.right, ?_⟩
  intro limit
  have hlist := t.list_eq kind since
  refine ⟨t.list kind since limit, rfl, ?_, ?_, ?_, ?_, ?_, ?_⟩
  · intro hlimit
    rw [hlist, limited_of_le hlimit]
  · intro hlimit
    rw [hlist, limited_of_lt hlimit]
  · rw [hlist, List.pairwise_filterMap]
    refine (hranked.sublist (limited_prefix_self limit _).sublist).imp ?_
    intro a b hab s hs s' hs'
    rw [(Row.listed?_eq_some hs).1, (Row.listed?_eq_some hs').1]
    exact hab.1
  · intro s hs
    rw [hlist] at hs
    obtain ⟨r, -, hr⟩ := List.mem_filterMap.mp hs
    exact (Row.listed?_eq_some hr).2
  · intro hrows
    have hlength : (t.ranked kind since).length ≤ t.rows.length := by
      rw [Table.ranked, List.length_mergeSort]
      exact List.length_filter_le _ _
    have hcut : (limited limit (t.ranked kind since)).length ≤ limit.toNat :=
      length_limited_le (hrows.imp_right (Nat.le_trans hlength))
    rw [hlist]
    exact Nat.le_trans (List.length_filterMap_le _ _) hcut
  · intro less hless
    refine ⟨t.list kind since less, rfl, ?_⟩
    rw [hlist, hlist]
    exact (limited_prefix_limited hless _).filterMap _

/-- Among the rows under the tag of statuses three come first that cannot all be read: one with a
blob for a stamp, one with a word, and one whose stamp is of another offset. -/
theorem listing_exact_odd_rows :
    let noon : Instant := { day := 19723, second := 43200, nano := 0 }
    let halfPast : Instant := { day := 19723, second := 45000, nano := 500000000 }
    let t : Table := ⟨[⟨-3, .text "status", .text "[]", stampCell noon⟩,
      ⟨1, .text "status", .text "", .blob []⟩, ⟨2, .text "speedtest", .text "", .text "soon"⟩,
      ⟨4, .text "status", .text "\x7b", .text "2024-01-01T14:30:00.5+02:00"⟩,
      ⟨5, .text "status", .text "", .text "soon"⟩, ⟨6, .blob [1], .text "", .blob []⟩,
      ⟨7, .text "status", .text "", .text ""⟩]⟩
    Numbered t.rows ∧
      ∃ ranked : List Row, ranked.Pairwise Row.Precedes ∧
        (∀ r, r ∈ ranked ↔ r ∈ t.rows ∧ r.InWindow .status noon) ∧
        (ranked.take 2).filterMap (Row.listed? .status) = [] ∧
        (ranked.take 3).filterMap (Row.listed? .status) = [⟨4, .status, "\x7b", halfPast⟩] := by
  intro noon halfPast t
  have hnumbered : Numbered t.rows := by
    unfold Numbered
    decide
  have hranked : t.ranked .status noon = [1, 5, 4, -3].flatMap fun id =>
      t.rows.filter fun r => r.id = id := by
    refine (hnumbered.filter _).mergeSort_eq ?_ ?_
    · decide +kernel
    · decide +kernel
  have htwo : t.list .status noon 2 = [] := by
    rw [Table.list_eq, hranked]
    decide +kernel
  have hthree : t.list .status noon 3 = [⟨4, .status, "\x7b", halfPast⟩] := by
    rw [Table.list_eq, hranked]
    decide +kernel
  obtain ⟨ranked, hmem, hsorted, hlist⟩ := listing_exact hnumbered .status noon
  refine ⟨hnumbered, ranked, hsorted, hmem, ?_, ?_⟩
  · obtain ⟨entries, hentries, hcut, -⟩ := hlist 2
    rw [← htwo]
    exact (hcut (by decide)).symm.trans (Except.ok.inj hentries).symm
  · obtain ⟨entries, hentries, hcut, -⟩ := hlist 3
    rw [← hthree]
    exact (hcut (by decide)).symm.trans (Except.ok.inj hentries).symm

end EgressWatch.Store
