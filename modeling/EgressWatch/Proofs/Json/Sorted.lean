import EgressWatch.Proofs.Json.Skip
import Mathlib.Data.List.Perm.Basic

/-!
# Values with their members in order

Sorting puts the members of the objects in a value in the order of their keys, at every depth
(`inOrder_sorted`), and nothing but the order of members changes (`rearranged_sorted`). The latter
is said by a relation that does not mention keys or sorting: `Rearranged` takes a value to one in
which the members of each object stand in any order, and lists stay as they are.

Both are proved by an induction on values that hands out the claim for everything in a list or an
object at once (`inductionOn`), since sorting goes through all of them alike: it is a map on the
items of a list and a map followed by a merge sort on the members of an object (`sortedItems_eq`,
`sortedMembers_eq`).
-/

namespace EgressWatch.Json

/-! ## Values by their parts -/

/-- What holds of scalars, and of a list or an object if it does of what they hold, does of all
values. -/
@[elab_as_elim]
theorem inductionOn {P : Json → Prop} (v : Json) (scalar : ∀ v, v.Scalar → P v)
    (list : ∀ items, (∀ v ∈ items, P v) → P (.list items))
    (object : ∀ ms, (∀ m ∈ ms, P m.2) → P (.object ms)) : P v := by
  refine @Json.rec P (fun items => ∀ v ∈ items, P v) (fun ms => ∀ m ∈ ms, P m.2) (fun m => P m.2)
    (scalar _ trivial) (fun _ => scalar _ trivial) (fun _ => scalar _ trivial)
    (fun _ => scalar _ trivial) (fun _ => scalar _ trivial) list object ?_ ?_ ?_ ?_
    (fun _ _ h => h) v
  · exact fun v hv => absurd hv List.not_mem_nil
  · exact fun v items hv hitems => List.forall_mem_cons.mpr ⟨hv, hitems⟩
  · exact fun m hm => absurd hm List.not_mem_nil
  · exact fun m ms hm hms => List.forall_mem_cons.mpr ⟨hm, hms⟩

/-! ## Order of members -/

/-- The objects in the value have their members in the order of their keys. -/
inductive InOrder : Json → Prop
  | scalar {v : Json} (h : v.Scalar) : InOrder v
  | list {items : List Json} (h : ∀ v ∈ items, InOrder v) : InOrder (.list items)
  | object {ms : List (String × Json)} (hkeys : ms.Pairwise fun m n => m.1 ≤ n.1)
      (h : ∀ m ∈ ms, InOrder m.2) : InOrder (.object ms)

/-- The second value is the first but for the order in which objects have their members. -/
inductive Rearranged : Json → Json → Prop
  | scalar {v : Json} (h : v.Scalar) : Rearranged v v
  | list {items : List Json} (f : Json → Json) (h : ∀ v ∈ items, Rearranged v (f v)) :
      Rearranged (.list items) (.list (items.map f))
  | object {ms ns : List (String × Json)} (f : Json → Json) (h : ∀ m ∈ ms, Rearranged m.2 (f m.2))
      (hp : ns.Perm (ms.map fun m => (m.1, f m.2))) : Rearranged (.object ms) (.object ns)

theorem Rearranged.refl (v : Json) : Rearranged v v := by
  induction v using inductionOn with
  | scalar v h => exact .scalar h
  | list items ih =>
    have h := Rearranged.list id ih
    rwa [List.map_id] at h
  | object ms ih =>
    have hid : (ms.map fun m => (m.1, id m.2)) = ms := List.map_id ms
    exact .object id ih (by rw [hid])

/-! ## Sorting -/

theorem Scalar.sorted_eq {v : Json} (h : v.Scalar) : v.sorted = v := by
  cases v with
  | list items => exact h.elim
  | object ms => exact h.elim
  | null | flag | whole | real | text => rw [sorted] <;> simp

theorem sorted_optional {α : Type} (f : α → Json) (o : Option α) :
    (optional f o).sorted = optional (fun a => (f a).sorted) o := by
  cases o with
  | none => exact Scalar.sorted_eq trivial
  | some a => rfl

theorem sortedItems_eq (items : List Json) : sortedItems items = items.map sorted := by
  induction items with
  | nil => rfl
  | cons v items ih => rw [sortedItems, ih, List.map_cons]

theorem sortedMembers_eq (ms : List (String × Json)) :
    sortedMembers ms = ms.map fun m => (m.1, m.2.sorted) := by
  induction ms with
  | nil => rfl
  | cons m ms ih => rw [sortedMembers, ih, List.map_cons]

/-- Sorting changes nothing but the order of members. -/
theorem rearranged_sorted (v : Json) : Rearranged v v.sorted := by
  induction v using inductionOn with
  | scalar v h => rw [h.sorted_eq]; exact .scalar h
  | list items ih => rw [sorted, sortedItems_eq]; exact .list sorted ih
  | object ms ih =>
    rw [sorted, sortedMembers_eq]
    exact .object sorted ih (List.mergeSort_perm _ _)

/-- Sorted values have their members in order. -/
theorem inOrder_sorted (v : Json) : v.sorted.InOrder := by
  induction v using inductionOn with
  | scalar v h => rw [h.sorted_eq]; exact .scalar h
  | list items ih =>
    rw [sorted, sortedItems_eq]
    exact .list (List.forall_mem_map.mpr ih)
  | object ms ih =>
    rw [sorted, sortedMembers_eq]
    refine .object ?_ fun m hm => ?_
    · refine (List.pairwise_mergeSort (fun a b c hab hbc => ?_) (fun a b => ?_) _).imp
        of_decide_eq_true
      · exact decide_eq_true (String.le_trans (of_decide_eq_true hab) (of_decide_eq_true hbc))
      · simpa using String.le_total a.1 b.1
    · obtain ⟨n, hn, rfl⟩ := List.mem_map.mp (List.mem_mergeSort.mp hm)
      exact ih n hn

end EgressWatch.Json
