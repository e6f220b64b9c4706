import EgressWatch.Proofs.Store.Answer
import Mathlib.Data.List.TakeWhile

/-!
# Numbers for new rows

A row that is added gets a number of its own and goes to the place that this number has among the
others; no other row changes. Which number it is takes two cases, and they are kept apart from here
on:

* As long as the largest number is not in use (`Table.HasRoom`), the new row gets the one after all
  others and stands behind them (`Table.save?_eq`). This is how every run goes that starts with
  small numbers: a save makes the largest one larger by one at most (`nextId_le`).
* Once it is in use, a number is drawn. It may be any that is not in use (`freeId?_fresh`), so it is
  smaller than some, and the new row stands between others; or none is found among those drawn, and
  nothing is saved.

In both cases the numbers stay in order and apart from each other (`Numbered.save?`), for a row that
is put in its place keeps them so (`Numbered.place`), and they stay within their words
(`freeId?_le`). What a table holds beyond the new row is what it held before
(`Database.rows_keep_perm`).
-/

namespace EgressWatch.Store

open Time

/-! ## Places -/

namespace Table

variable {t : Table} {r : Row}

/-- Putting a row in its place leaves the others as they are, before it and after it. -/
theorem exists_place (t : Table) (r : Row) : ∃ front back, t.rows = front ++ back ∧
    (t.place r).rows = front ++ r :: back :=
  ⟨_, _, List.takeWhile_append_dropWhile.symm, rfl⟩

theorem perm_place (t : Table) (r : Row) : (t.place r).rows.Perm (t.rows ++ [r]) := by
  obtain ⟨front, back, hrows, hplace⟩ := t.exists_place r
  rw [hplace, hrows, List.append_assoc]
  exact List.perm_middle.trans ((List.perm_append_singleton r _).symm.trans
    (by rw [List.append_assoc]))

/-- Behind all smaller numbers is the end. -/
theorem place_eq_append (h : ∀ a ∈ t.rows, a.id < r.id) : t.place r = ⟨t.rows ++ [r]⟩ := by
  have hall : ∀ a ∈ t.rows, decide (a.id < r.id) = true := fun a ha => decide_eq_true (h a ha)
  rw [place, List.dropWhile_eq_nil_iff.mpr hall, List.takeWhile_eq_self_iff.mpr hall]

end Table

/-- A row with a new number that is put in its place keeps the numbers in order. -/
theorem Numbered.place {t : Table} (h : Numbered t.rows) {r : Row}
    (hnew : ∀ a ∈ t.rows, a.id ≠ r.id) : Numbered (t.place r).rows := by
  have hsplit := List.takeWhile_append_dropWhile (p := fun a : Row => decide (a.id < r.id))
    (l := t.rows)
  have hboth : Numbered (t.rows.takeWhile (·.id < r.id) ++ t.rows.dropWhile (·.id < r.id)) := by
    rw [hsplit]
    exact h
  obtain ⟨hfront, hback, -⟩ := List.pairwise_append.mp hboth
  have hsmall : ∀ a ∈ t.rows.takeWhile (·.id < r.id), a.id < r.id := by
    intro a ha
    simpa using List.all_eq_true.mp List.all_takeWhile a ha
  have hlarge : ∀ a ∈ t.rows.dropWhile (·.id < r.id), r.id < a.id := by
    cases hdrop : t.rows.dropWhile (·.id < r.id) with
    | nil => simp
    | cons first rest =>
      rw [hdrop] at hback
      have hfirst : r.id < first.id := by
        have hmem : first ∈ t.rows := (List.dropWhile_sublist _).subset (by rw [hdrop]; simp)
        have hnot := List.head_dropWhile_not (fun a : Row => decide (a.id < r.id))
          (show t.rows.dropWhile (·.id < r.id) ≠ [] by rw [hdrop]; simp)
        simp only [hdrop, List.head_cons, decide_eq_false_iff_not] at hnot
        have hne := hnew first hmem
        omega
      intro a ha
      rcases List.mem_cons.mp ha with rfl | ha
      · exact hfirst
      · exact Int.lt_trans hfirst ((List.pairwise_cons.mp hback).1 a ha)
  refine List.pairwise_append.mpr ⟨hfront, List.pairwise_cons.mpr ⟨hlarge, hback⟩, ?_⟩
  intro a ha b hb
  have hle := hsmall a ha
  rcases List.mem_cons.mp hb with rfl | hb
  · exact hle
  · exact Int.lt_trans hle (hlarge b hb)

/-- A row that is put in its place by hand has a new number. -/
theorem Numbered.insert? {t placed : Table} (h : Numbered t.rows) {r : Row}
    (hplaced : t.insert? r = some placed) : Numbered placed.rows := by
  unfold Table.insert? at hplaced
  split at hplaced
  next => exact absurd hplaced nofun
  next hunused =>
    rw [← Option.some.inj hplaced]
    exact h.place fun a ha heq => hunused (List.any_eq_true.mpr ⟨a, ha, by simpa using heq⟩)

/-! ## The next number -/

section Next

variable {t : Table}

/-- The next number is larger than all in use. -/
theorem Numbered.lt_nextId (h : Numbered t.rows) : ∀ r ∈ t.rows, r.id < t.nextId := by
  intro r hr
  unfold Table.nextId
  cases hlast : t.rows.getLast? with
  | none =>
    rw [List.getLast?_eq_none_iff.mp hlast] at hr
    exact absurd hr (by simp)
  | some last =>
    obtain ⟨init, hinit⟩ := List.getLast?_eq_some_iff.mp hlast
    rw [hinit] at hr
    unfold Numbered at h
    rw [hinit] at h
    show r.id < last.id + 1
    rcases List.mem_append.mp hr with hr | hr
    · have := (List.pairwise_append.mp h).2.2 r hr last (by simp)
      omega
    · rw [List.mem_singleton.mp hr]
      omega

/-- Numbers grow by one at most. -/
theorem nextId_le {top : Int} (htop : 0 ≤ top) (h : ∀ r ∈ t.rows, r.id ≤ top) :
    t.nextId ≤ top + 1 := by
  unfold Table.nextId
  split
  next => omega
  next last hlast =>
    have hmem := h last (List.mem_of_getLast? hlast)
    omega

/-- No number is larger than the largest one. -/
def Table.Fits (t : Table) : Prop := ∀ r ∈ t.rows, r.id ≤ maxId

/-- The largest number is not in use. -/
def Table.HasRoom (t : Table) : Prop := ∀ r ∈ t.rows, r.id < maxId

theorem Table.HasRoom.nextId_le (h : t.HasRoom) : t.nextId ≤ maxId := by
  have hmax : maxId = 9223372036854775807 := rfl
  have hbelow : ∀ r ∈ t.rows, r.id ≤ maxId - 1 := fun r hr => Int.le_sub_one_of_lt (h r hr)
  have hnext := Store.nextId_le (by omega) hbelow
  omega

end Next

/-! ## Saving -/

section Save

variable {t left : Table} {draws : Draws} {s : Snapshot} {id : Int}

theorem drawnFree?_eq_some (h : t.drawnFree? draws = some id) :
    t.uses id = false ∧ ∃ i < maxDraws, id = drawnId (draws i) := by
  obtain ⟨i, hi, rfl⟩ := List.mem_map.mp (List.mem_of_find?_eq_some h)
  exact ⟨by simpa using List.find?_some h, i, List.mem_range.mp hi, rfl⟩

/-- A number that is drawn is above zero and in the lower half of the words. -/
theorem drawnId_bounds (word : UInt64) : 0 < drawnId word ∧ drawnId word < maxId := by
  have hmax : maxId = 9223372036854775807 := rfl
  unfold drawnId
  omega

/-- Whichever way it was found, a number for a new row is not in use. -/
theorem freeId?_fresh (h : Numbered t.rows) (hid : t.freeId? draws = some id) :
    ∀ r ∈ t.rows, r.id ≠ id := by
  intro r hr
  unfold Table.freeId? at hid
  split at hid
  next =>
    rw [← Option.some.inj hid]
    exact Int.ne_of_lt (h.lt_nextId r hr)
  next =>
    have hunused := (drawnFree?_eq_some hid).1
    unfold Table.uses at hunused
    simpa using List.any_eq_false.mp hunused r hr

theorem freeId?_le (hid : t.freeId? draws = some id) : id ≤ maxId := by
  unfold Table.freeId? at hid
  split at hid
  next hle =>
    rw [← Option.some.inj hid]
    exact hle
  next =>
    obtain ⟨-, i, -, rfl⟩ := drawnFree?_eq_some hid
    exact Int.le_of_lt (drawnId_bounds _).2

theorem freeId?_of_hasRoom (h : t.HasRoom) (draws : Draws) : t.freeId? draws = some t.nextId :=
  if_pos h.nextId_le

/-- Where the largest number is not in use, a new row gets the next one and goes to the end. -/
theorem Table.save?_eq (h : Numbered t.rows) (hroom : t.HasRoom) (draws : Draws) (s : Snapshot) :
    t.save? draws s = some (t.nextId, ⟨t.rows ++ [rowOf (t.nextId, s)]⟩) := by
  rw [save?, freeId?_of_hasRoom hroom, Option.map_some, place_eq_append h.lt_nextId]

theorem Table.save?_eq_some (h : t.save? draws s = some (id, left)) :
    t.freeId? draws = some id ∧ left = t.place (rowOf (id, s)) := by
  obtain ⟨id', hid, heq⟩ := Option.map_eq_some_iff.mp h
  obtain ⟨rfl, rfl⟩ := Prod.mk.inj heq
  exact ⟨hid, rfl⟩

/-- Saving keeps the numbers in order, whatever is drawn. -/
theorem Numbered.save? (h : Numbered t.rows) (hsave : t.save? draws s = some (id, left)) :
    Numbered left.rows := by
  obtain ⟨hid, rfl⟩ := Table.save?_eq_some hsave
  exact h.place (freeId?_fresh h hid)

/-- Saving gives no number larger than the largest one. -/
theorem Table.Fits.save? (h : t.Fits) (hsave : t.save? draws s = some (id, left)) : left.Fits := by
  obtain ⟨hid, rfl⟩ := Table.save?_eq_some hsave
  intro r hr
  rcases List.mem_append.mp ((t.perm_place _).mem_iff.mp hr) with hr | hr
  · exact h r hr
  · rw [List.mem_singleton.mp hr]
    exact freeId?_le hid

end Save

/-! ## Databases -/

namespace Database

variable {t : Table}

theorem save_some (t : Table) (draws : Draws) (s : Snapshot) :
    Database.save ⟨some t⟩ draws s = (t.save? draws s).elim (.error .queryFailed)
      fun saved => .ok (saved.1, ⟨some saved.2⟩) := by
  unfold save
  rw [ask_some]
  cases t.save? draws s <;> rfl

/-- What cannot be saved makes no difference. -/
theorem keep_some (t : Table) (draws : Draws) (s : Snapshot) :
    Database.keep ⟨some t⟩ draws s = ⟨some ((t.save? draws s).elim t (·.2))⟩ := by
  rw [keep, save_some]
  cases t.save? draws s <;> rfl

/-- The rows of the table, none if there is no table. -/
def rows (d : Database) : List Row := (d.table.getD {}).rows

/-- A snapshot that is to be kept is in the table afterwards, in one more row, or nothing has
changed. -/
theorem rows_keep_perm (d : Database) (draws : Draws) (s : Snapshot) :
    (d.keep draws s).rows = d.rows ∨
      ∃ id, (d.keep draws s).rows.Perm (d.rows ++ [rowOf (id, s)]) := by
  obtain ⟨_ | t⟩ := d
  · exact .inl rfl
  · rw [keep_some]
    cases hsave : t.save? draws s with
    | none => exact .inl rfl
    | some saved =>
      obtain ⟨id, left⟩ := saved
      obtain ⟨-, rfl⟩ := Table.save?_eq_some hsave
      exact .inr ⟨id, t.perm_place _⟩

end Database

end EgressWatch.Store
