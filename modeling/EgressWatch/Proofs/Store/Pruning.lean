import EgressWatch.Proofs.Store.Answer
import EgressWatch.Proofs.Time.Shift
import Mathlib.Data.List.Basic

/-!
# Pruning

Pruning parts the rows of a table at a bound. Those with a stamp before it go, whatever their tags
and texts (`Table.expired`), and are counted; all others stay as they are (`Table.unexpired`,
`pruneBefore_eq`).

> `prune_exact`: pruning changes no answer from the bound on, afterwards no question reaches back
> further, and pruning again removes nothing.

A question looks at a window, so it is enough to compare windows. From the bound on these hold the
very rows that stay (`window_unexpired`), and from further back nothing else is left
(`window_unexpired_of_le`).

Bounds one after another remove what any of them removes, each row once (`pruneEach_eq`), so neither
their order nor a repetition makes a difference; and in the years whose stamps are in the order of
time the later of two bounds removes what both do (`pruneEach_pair`). Beyond these years the stamps
of bounds do not compare as instants do, and nothing of the sort is claimed.
-/

namespace EgressWatch.Time.Instant

/-- The later of two instants. -/
def later (a b : Instant) : Instant := if a < b then b else a

end EgressWatch.Time.Instant

namespace EgressWatch.Store

open Time

/-- What comes before a cell comes before all that do not come before that cell. -/
theorem Cell.before_of_le {x a b : Cell} (hx : x.before a) (hab : b.before a = false) :
    x.before b := by
  cases h : a.before b with
  | true => exact Cell.before_trans hx h
  | false =>
    rw [← Cell.eq_of_not_before h hab]
    exact hx

namespace Table

variable {t : Table} {kind : Snapshot.Kind} {bound since : Instant}

/-- The rows that pruning removes. -/
def expired (t : Table) (bound : Instant) : List Row :=
  t.rows.filter fun r => r.created.before (stampCell bound)

/-- The table that pruning leaves. -/
def unexpired (t : Table) (bound : Instant) : Table :=
  ⟨t.rows.filter fun r => !r.created.before (stampCell bound)⟩

/-- What is missing from a table after pruning is what was removed. -/
theorem pruneBefore_eq (t : Table) (bound : Instant) :
    t.pruneBefore bound = ((t.expired bound).length, t.unexpired bound) := by
  have hparts := List.length_eq_length_filter_add (l := t.rows)
    fun r => r.created.before (stampCell bound)
  rw [pruneBefore, expired, unexpired, hparts, Nat.add_sub_cancel]

/-- A row with the stamp of an instant stays if that is not older than the bound, to the
microsecond. -/
theorem mem_unexpired_iff {r : Row} {made : Instant} (hr : r ∈ t.rows)
    (hmade : r.created = stampCell made) (hyear : made.PlainYear)
    (hbound : bound.date.year ≤ 9999) : r ∈ (t.unexpired bound).rows ↔ ¬ made.cut < bound.cut := by
  rw [unexpired, List.mem_filter, hmade, before_stampCell hyear hbound]
  simp [hr]

/-- Two instants that the same stamps come before have the same window. -/
theorem window_congr (h : ∀ r ∈ t.rows,
    r.created.before (stampCell since) = r.created.before (stampCell bound)) :
    t.window kind since = t.window kind bound :=
  List.filter_congr fun r hr => by rw [h r hr]

/-- A window that lies after all removed rows is left as it is. -/
theorem window_unexpired (h : ∀ r ∈ t.rows, r.created.before (stampCell bound) →
    r.created.before (stampCell since)) :
    (t.unexpired bound).window kind since = t.window kind since := by
  rw [window, unexpired, window, List.filter_filter]
  refine List.filter_congr fun r hr => ?_
  cases hgone : r.created.before (stampCell bound) with
  | false => simp
  | true => simp [h r hr hgone]

/-- Rows are listed as their window is ranked. -/
theorem list_congr {t' : Table} {since' : Instant} (h : t'.window kind since' = t.window kind since)
    (limit : UInt64) : t'.list kind since' limit = t.list kind since limit := by
  rw [list, list, select, select]
  exact congrArg (fun rows => (limited limit (rows.mergeSort Row.newer)).filterMap Row.read?) h

/-- After pruning no question reaches back further than the bound. -/
theorem window_unexpired_of_le (h : (stampCell bound).before (stampCell since) = false) :
    (t.unexpired bound).window kind since = (t.unexpired bound).window kind bound := by
  refine window_congr fun r hr => ?_
  obtain ⟨-, hstays⟩ := List.mem_filter.mp hr
  have hstays : r.created.before (stampCell bound) = false := by simpa using hstays
  rw [hstays, Bool.eq_false_iff]
  intro hbefore
  rw [Cell.before_of_le hbefore h] at hstays
  exact absurd hstays (by simp)

end Table

namespace Database

/-- A database with a table prunes without fail. -/
theorem pruneBefore_some (t : Table) (bound : Instant) :
    pruneBefore ⟨some t⟩ bound = .ok ((t.expired bound).length, ⟨some (t.unexpired bound)⟩) := by
  show Except.ok ((t.pruneBefore bound).1, (⟨some (t.pruneBefore bound).2⟩ : Database)) = _
  rw [Table.pruneBefore_eq]

/-- Prunes before one bound after another and says how many rows were removed in all. -/
def pruneEach (d : Database) : List Instant → Except Fault (Nat × Database)
  | [] => .ok (0, d)
  | bound :: bounds => do
    let (n, d) ← d.pruneBefore bound
    let (m, d) ← d.pruneEach bounds
    .ok (n + m, d)

/-- A row is removed by one of several bounds. -/
def expires (bounds : List Instant) (r : Row) : Bool :=
  bounds.any fun bound => r.created.before (stampCell bound)

/-- Bounds one after another remove what any of them removes, each row once. -/
theorem pruneEach_eq (t : Table) (bounds : List Instant) :
    pruneEach ⟨some t⟩ bounds = .ok ((t.rows.filter (expires bounds)).length,
      ⟨some ⟨t.rows.filter fun r => !expires bounds r⟩⟩) := by
  -- on the bounds, for what the earlier ones have left of the table
  induction bounds generalizing t with
  | nil =>
    have hnone : t.rows.filter (expires []) = [] := List.filter_eq_nil_iff.mpr fun r _ => by
      simp [expires]
    have hall : t.rows.filter (fun r => !expires [] r) = t.rows :=
      List.filter_eq_self.mpr fun r _ => rfl
    rw [pruneEach, hnone, hall]
    rfl
  | cons bound bounds ih =>
    have hexpires (r : Row) : expires (bound :: bounds) r =
        (r.created.before (stampCell bound) || expires bounds r) := rfl
    have hcount : (t.rows.filter (expires (bound :: bounds))).length =
        (t.expired bound).length + ((t.unexpired bound).rows.filter (expires bounds)).length := by
      have hparts := List.length_eq_length_filter_add
        (l := t.rows.filter (expires (bound :: bounds))) fun r => r.created.before (stampCell bound)
      rw [hparts, List.filter_filter, List.filter_filter, Table.expired, Table.unexpired,
        List.filter_filter]
      congr 2 <;>
        · refine List.filter_congr fun r _ => ?_
          rw [hexpires]
          cases r.created.before (stampCell bound) <;> simp
    have hleft : (t.unexpired bound).rows.filter (fun r => !expires bounds r) =
        t.rows.filter fun r => !expires (bound :: bounds) r := by
      rw [Table.unexpired, List.filter_filter]
      refine List.filter_congr fun r _ => ?_
      rw [hexpires, Bool.not_or, Bool.and_comm]
    rw [pruneEach, pruneBefore_some, hcount, ← hleft]
    simp only [bind, Except.bind, ih]

/-- Of two bounds in the years 0 to 9999 the later one removes what either does. -/
theorem expires_pair {a b : Instant} (ha : a.PlainYear) (hb : b.PlainYear) (r : Row) :
    expires [a, b] r = r.created.before (stampCell (a.later b)) := by
  have hpair : expires [a, b] r =
      (r.created.before (stampCell a) || r.created.before (stampCell b)) := by
    simp [expires]
  rw [hpair]
  unfold Instant.later
  split
  next hlt =>
    have hcut : ¬ b.cut < a.cut := Instant.cut_le_cut fun hgt => by
      rw [Instant.lt_def] at hlt hgt
      omega
    have hle : (stampCell b).before (stampCell a) = false := by
      rw [before_stampCell hb ha.2, decide_eq_false hcut]
    cases h : r.created.before (stampCell a) with
    | false => simp
    | true => simp [Cell.before_of_le h hle]
  next hge =>
    have hle : (stampCell a).before (stampCell b) = false := by
      rw [before_stampCell ha hb.2, decide_eq_false (Instant.cut_le_cut hge)]
    cases h : r.created.before (stampCell b) with
    | false => simp
    | true => simp [Cell.before_of_le h hle]

/-- Two bounds in the years 0 to 9999 remove what the later of them does, whichever comes first. -/
theorem pruneEach_pair (t : Table) {a b : Instant} (ha : a.PlainYear) (hb : b.PlainYear) :
    pruneEach ⟨some t⟩ [a, b] = pruneBefore ⟨some t⟩ (a.later b) ∧
      pruneEach ⟨some t⟩ [b, a] = pruneBefore ⟨some t⟩ (a.later b) := by
  have hlater : expires [a, b] = fun r => r.created.before (stampCell (a.later b)) :=
    funext (expires_pair ha hb)
  have hswap : expires [b, a] = expires [a, b] := by
    funext r
    simp [expires, Bool.or_comm]
  rw [pruneEach_eq, pruneEach_eq, hswap, hlater, pruneBefore_some]
  exact ⟨rfl, rfl⟩

end Database

/-- Pruning removes the rows with a stamp before the bound, whatever they are, says how many there
were, and leaves the other rows as they were. It changes no answer from the bound on; afterwards
every answer from further back is that from the bound on; and doing it again removes nothing. Two
bounds in the years 0 to 9999 remove, in either order, what the later of them does, and as many
rows. -/
theorem prune_exact (t : Table) (bound : Instant) :
    let left := Table.mk (t.rows.filter fun r => !r.created.before (stampCell bound))
    Database.pruneBefore ⟨some t⟩ bound =
        .ok ((t.rows.filter fun r => r.created.before (stampCell bound)).length, ⟨some left⟩) ∧
      (∀ kind limit, Database.list ⟨some left⟩ kind bound limit =
        Database.list ⟨some t⟩ kind bound limit) ∧
      (∀ since, (stampCell bound).before (stampCell since) = false → ∀ kind limit,
        Database.list ⟨some left⟩ kind since limit = Database.list ⟨some left⟩ kind bound limit) ∧
      Database.pruneBefore ⟨some left⟩ bound = .ok (0, ⟨some left⟩) ∧
      ∀ other : Instant, bound.PlainYear → other.PlainYear →
        Database.pruneEach ⟨some t⟩ [bound, other] =
            Database.pruneBefore ⟨some t⟩ (bound.later other) ∧
          Database.pruneEach ⟨some t⟩ [other, bound] =
            Database.pruneBefore ⟨some t⟩ (bound.later other) := by
  intro left
  refine ⟨Database.pruneBefore_some t bound, fun kind limit => ?_, fun since h kind limit => ?_, ?_,
    fun other hbound hother => Database.pruneEach_pair t hbound hother⟩
  · exact congrArg Except.ok (Table.list_congr (Table.window_unexpired fun _ _ h => h) limit)
  · exact congrArg Except.ok (Table.list_congr (Table.window_unexpired_of_le h) limit)
  · have hgone : left.expired bound = [] := by
      refine List.filter_eq_nil_iff.mpr fun r hr => ?_
      simpa using (List.mem_filter.mp hr).2
    have hleft : left.unexpired bound = left :=
      congrArg Table.mk (List.filter_eq_self.mpr fun r hr => (List.mem_filter.mp hr).2)
    rw [Database.pruneBefore_some, hgone, hleft]
    rfl

/-- Rows with odd tags, bytes for a stamp and no stamp at all, before and after two bounds in one
second. -/
theorem prune_exact_odd_rows :
    let first : Instant := { day := 19723, second := 43200, nano := 999 }
    let second : Instant := { day := 19723, second := 43200, nano := 1000 }
    let t : Table := ⟨[⟨-3, .text "other", .blob [0], .text ""⟩,
      ⟨1, .text "status", .text "\x7b", stampCell first⟩,
      ⟨2, .text "speedtest", .text "\x7b", stampCell second⟩,
      ⟨7, .text "status", .text "", .blob []⟩, ⟨8, .blob [1], .text "", .text "soon"⟩]⟩
    let left : Table := ⟨t.rows.drop 2⟩
    first.PlainYear ∧ second.PlainYear ∧ (stampCell second).before (stampCell first) = false ∧
      Database.pruneEach ⟨some t⟩ [second, first] = .ok (2, ⟨some left⟩) ∧
      Database.pruneEach ⟨some t⟩ [first, second] = .ok (2, ⟨some left⟩) ∧
      Database.list ⟨some left⟩ .speedTest first 50 =
        Database.list ⟨some left⟩ .speedTest second 50 := by
  intro first second t left
  have hfirst : first.PlainYear := by decide
  have hsecond : second.PlainYear := by decide
  have hle : (stampCell second).before (stampCell first) = false := by decide +kernel
  have hprune : Database.pruneBefore ⟨some t⟩ second = .ok (2, ⟨some left⟩) := by decide +kernel
  obtain ⟨-, -, hlist, -, hpair⟩ := prune_exact t second
  have hpair := hpair first hsecond hfirst
  have hlater : second.later first = second := by decide
  rw [hlater, hprune] at hpair
  have hleft : Table.mk (t.rows.filter fun r => !r.created.before (stampCell second)) = left := by
    decide +kernel
  rw [hleft] at hlist
  exact ⟨hfirst, hsecond, hle, hpair.1, hpair.2, hlist first hle .speedTest 50⟩

end EgressWatch.Store
