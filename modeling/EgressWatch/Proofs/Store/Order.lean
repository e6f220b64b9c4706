import EgressWatch.Store.Table

/-!
# The order of rows

`Row.newer` is a total order on the rows of a table: by stamp, texts before bytes, and by number
where stamps agree (`Row.newer_trans`, `Row.newer_total`). That it tells all rows apart takes the
table to be `Numbered`, its rows in the order of their numbers, each number once; then it does not
matter how the rows stood before they were sorted (`Numbered.mergeSort_eq_of_perm`), and leaving
rows out and sorting may change places (`mergeSort_filter`).

Rows are shown sorted and then read, with those left out that cannot be read. One may as well read
first and sort what was read:

> `filterMap_mergeSort`: reading the members of a sorted list is sorting what they read as, if of
> any two members the earlier one compares with the later one as what they read as do.

Sorting looks only at how earlier members compare with later ones, so the two orders need to agree
only there. The induction is on the list: a first member more goes to some place among the others,
sorted before, and that is the same place on both sides, since a list falls apart in one way only
into those before and those behind it (`append_inj_of_split`).

On a table with rising numbers, read backwards, that leaves the stamps to compare
(`Numbered.filterMap_mergeSort`), which is how answers come to be in the order of time and, where
times are equal, the last one first.
-/

namespace EgressWatch.Store

/-! ## Sorting and reading -/

section Sorting

variable {α β : Type} {r : α → α → Bool} {s : β → β → Bool} {f : α → Option β}

/-- A list falls apart in one way into members without a property followed by members with it. -/
theorem append_inj_of_split {p : α → Bool} {u v u' v' : List α} (h : u ++ v = u' ++ v')
    (hu : ∀ a ∈ u, p a = false) (hv : ∀ a ∈ v, p a = true) (hu' : ∀ a ∈ u', p a = false)
    (hv' : ∀ a ∈ v', p a = true) : u = u' ∧ v = v' := by
  have hfront : ∀ {x y : List α}, (∀ a ∈ x, p a = false) → (∀ a ∈ y, p a = true) →
      (x ++ y).takeWhile (!p ·) = x := by
    intro x y hx hy
    rw [List.takeWhile_append_of_pos (by simpa using hx)]
    cases y with
    | nil => simp
    | cons b y => simp [hy b (by simp)]
  have huu : u = u' := by rw [← hfront hu hv, ← hfront hu' hv', h]
  exact ⟨huu, List.append_cancel_left (huu ▸ h)⟩

/-- Reading the members of a sorted list is sorting what the members read as, if of any two members
the earlier one compares with the later one as what they read as do. -/
theorem filterMap_mergeSort (rtrans : ∀ a b c, r a b → r b c → r a c)
    (rtotal : ∀ a b, r a b || r b a) (strans : ∀ x y z, s x y → s y z → s x z)
    (stotal : ∀ x y, s x y || s y x) {l : List α}
    (h : l.Pairwise fun a b => ∀ x ∈ f a, ∀ y ∈ f b, r a b = s x y) :
    (l.mergeSort r).filterMap f = (l.filterMap f).mergeSort s := by
  -- sorting a longer list puts its first member somewhere into the sorted rest
  induction l with
  | nil => simp
  | cons a l ih =>
    obtain ⟨ha, hl⟩ := List.pairwise_cons.mp h
    obtain ⟨l₁, l₂, hcons, hsplit, hfront⟩ := List.mergeSort_cons rtrans rtotal a l
    have hback : ∀ b ∈ l₂, r a b := by
      have hsorted := List.pairwise_mergeSort rtrans rtotal (a :: l)
      rw [hcons] at hsorted
      exact (List.pairwise_cons.mp (List.pairwise_append.mp hsorted).2.1).1
    have hmem : ∀ b ∈ l₁ ++ l₂, b ∈ l := by
      intro b hb
      rw [← hsplit] at hb
      exact List.mem_mergeSort.mp hb
    have hread : (l₁ ++ l₂).filterMap f = (l.filterMap f).mergeSort s := by
      rw [← hsplit, ih hl]
    cases hfa : f a with
    | none =>
      rw [hcons, List.filterMap_cons_none hfa, ← hread]
      simp [hfa]
    | some x =>
      rw [hcons, List.filterMap_cons_some hfa]
      obtain ⟨m₁, m₂, hcons', hsplit', hfront'⟩ :=
        List.mergeSort_cons strans stotal x (l.filterMap f)
      have hback' : ∀ y ∈ m₂, s x y := by
        have hsorted := List.pairwise_mergeSort strans stotal (x :: l.filterMap f)
        rw [hcons'] at hsorted
        exact (List.pairwise_cons.mp (List.pairwise_append.mp hsorted).2.1).1
      -- the new member goes to the same place in both lists
      rw [hsplit', List.filterMap_append] at hread
      have hplace := append_inj_of_split (p := s x) hread ?_ ?_ ?_ hback'
      · rw [hcons', ← hplace.1, ← hplace.2]
        simp [hfa]
      · intro y hy
        obtain ⟨b, hb, hby⟩ := List.mem_filterMap.mp hy
        rw [← ha b (hmem b (by simp [hb])) x hfa y hby]
        simpa using hfront b hb
      · intro y hy
        obtain ⟨b, hb, hby⟩ := List.mem_filterMap.mp hy
        rw [← ha b (hmem b (by simp [hb])) x hfa y hby]
        exact hback b hb
      · intro y hy
        simpa using hfront' y hy

/-- Sorting by an order that tells all members apart does not depend on how they stood. -/
theorem mergeSort_eq_of_perm (rtrans : ∀ a b c, r a b → r b c → r a c)
    (rtotal : ∀ a b, r a b || r b a) {l l' : List α} (hp : l.Perm l')
    (hanti : ∀ a ∈ l, ∀ b ∈ l, r a b → r b a → a = b) : l.mergeSort r = l'.mergeSort r := by
  have hsorted (l : List α) : (l.mergeSort r).Pairwise fun a b => r a b = true :=
    List.pairwise_mergeSort rtrans rtotal l
  have hperm : (l.mergeSort r).Perm (l'.mergeSort r) :=
    (List.mergeSort_perm l r).trans (hp.trans (List.mergeSort_perm l' r).symm)
  refine List.Perm.eq_of_pairwise (fun a b ha hb => ?_) (hsorted l) (hsorted l') hperm
  exact hanti a (List.mem_mergeSort.mp ha) b (hp.mem_iff.mpr (List.mem_mergeSort.mp hb))

/-- Cutting a list and then reading it is reading it and then cutting, if all members read. -/
theorem filterMap_take {n : Nat} {l : List α} (h : ∀ a ∈ l, (f a).isSome) :
    (l.take n).filterMap f = (l.filterMap f).take n := by
  induction l generalizing n with
  | nil => simp
  | cons a l ih =>
    obtain ⟨b, hb⟩ := Option.isSome_iff_exists.mp (h a (by simp))
    cases n with
    | zero => simp
    | succ n =>
      rw [List.take_succ_cons, List.filterMap_cons_some hb, List.filterMap_cons_some hb,
        List.take_succ_cons, ih fun a ha => h a (by simp [ha])]

end Sorting

/-! ## Cells and rows -/

namespace Cell

theorem before_irrefl (a : Cell) : a.before a = false := by
  cases a with
  | text s => simp [before]
  | blob b => simp [before]

theorem before_trans {a b c : Cell} (hab : a.before b) (hbc : b.before c) : a.before c := by
  cases a <;> cases b <;> cases c <;> simp only [before, decide_eq_true_eq] at hab hbc ⊢
  case text.text.text => exact String.lt_trans hab hbc
  case blob.blob.blob => exact List.lt_trans hab hbc
  all_goals contradiction

theorem before_asymm {a b : Cell} (h : a.before b) : b.before a = false := by
  rw [Bool.eq_false_iff]
  intro hba
  have hself := before_trans h hba
  rw [before_irrefl] at hself
  exact Bool.false_ne_true hself

theorem eq_of_not_before {a b : Cell} (hab : a.before b = false) (hba : b.before a = false) :
    a = b := by
  cases a <;> cases b <;> simp only [before, decide_eq_false_iff_not] at hab hba
  case text.text => rw [String.le_antisymm hba hab]
  case blob.blob => rw [List.le_antisymm hba hab]
  all_goals contradiction

end Cell

namespace Row

theorem newer_iff {a b : Row} :
    newer a b ↔ b.created.before a.created ∨ (a.created = b.created ∧ b.id ≤ a.id) := by
  simp [newer]

theorem newer_trans (a b c : Row) (hab : newer a b) (hbc : newer b c) : newer a c := by
  rw [newer_iff] at hab hbc ⊢
  rcases hab with hab | ⟨hab, hid⟩ <;> rcases hbc with hbc | ⟨hbc, hid'⟩
  · exact .inl (Cell.before_trans hbc hab)
  · exact .inl (hbc ▸ hab)
  · exact .inl (hab ▸ hbc)
  · exact .inr ⟨hab.trans hbc, Int.le_trans hid' hid⟩

theorem newer_total (a b : Row) : newer a b || newer b a := by
  rw [Bool.or_eq_true, newer_iff, newer_iff]
  cases hba : b.created.before a.created with
  | true => exact .inl (.inl rfl)
  | false =>
    cases hab : a.created.before b.created with
    | true => exact .inr (.inl rfl)
    | false =>
      have heq := Cell.eq_of_not_before hab hba
      rcases Int.le_total b.id a.id with h | h
      · exact .inl (.inr ⟨heq, h⟩)
      · exact .inr (.inr ⟨heq.symm, h⟩)

/-- Rows that are each newer than the other have one number. -/
theorem id_eq_of_newer {a b : Row} (hab : newer a b) (hba : newer b a) : a.id = b.id := by
  rw [newer_iff] at hab hba
  rcases hab with hab | ⟨hab, hid⟩ <;> rcases hba with hba | ⟨hba, hid'⟩
  · rw [Cell.before_asymm hab] at hba
    exact absurd hba (by simp)
  · rw [hba, Cell.before_irrefl] at hab
    exact absurd hab (by simp)
  · rw [hab, Cell.before_irrefl] at hba
    exact absurd hba (by simp)
  · exact Int.le_antisymm hid' hid

/-- A row is newer than one with a smaller number unless its stamp comes before. -/
theorem newer_of_id_le {a b : Row} (h : b.id ≤ a.id) :
    newer a b = !a.created.before b.created := by
  cases hab : a.created.before b.created with
  | true =>
    rw [Bool.not_true, Bool.eq_false_iff, Ne, newer_iff]
    rintro (hba | ⟨heq, -⟩)
    · rw [Cell.before_asymm hab] at hba
      exact absurd hba (by simp)
    · rw [heq, Cell.before_irrefl] at hab
      exact absurd hab (by simp)
  | false =>
    rw [Bool.not_false, newer_iff]
    cases hba : b.created.before a.created with
    | true => exact .inl rfl
    | false => exact .inr ⟨Cell.eq_of_not_before hab hba, h⟩

end Row

/-- The rows stand in the order of their numbers, each number once. -/
def Numbered (rows : List Row) : Prop := rows.Pairwise fun a b => a.id < b.id

theorem Numbered.eq_of_id_eq {rows : List Row} (h : Numbered rows) :
    ∀ a ∈ rows, ∀ b ∈ rows, a.id = b.id → a = b := by
  have hne : rows.Pairwise fun a b => a.id = b.id → a = b :=
    h.imp fun hlt heq => absurd heq (Int.ne_of_lt hlt)
  have hne' : rows.Pairwise fun b a => a.id = b.id → a = b :=
    h.imp fun hlt heq => absurd heq.symm (Int.ne_of_lt hlt)
  intro a ha b hb
  exact List.Pairwise.forall_of_forall_of_flip (fun _ _ _ => rfl) hne hne' ha hb

theorem Numbered.filter {rows : List Row} (h : Numbered rows) (p : Row → Bool) :
    Numbered (rows.filter p) :=
  List.Pairwise.filter p h

/-- Of the rows of a table it does not matter how they stood before they are sorted. -/
theorem Numbered.mergeSort_eq_of_perm {rows rows' : List Row} (h : Numbered rows)
    (hp : rows.Perm rows') : rows.mergeSort Row.newer = rows'.mergeSort Row.newer := by
  refine Store.mergeSort_eq_of_perm Row.newer_trans Row.newer_total hp ?_
  intro a ha b hb hab hba
  exact h.eq_of_id_eq a ha b hb (Row.id_eq_of_newer hab hba)

/-- Of a table it does not matter whether it is sorted from the front or backwards. -/
theorem Numbered.mergeSort_reverse {rows : List Row} (h : Numbered rows) :
    rows.mergeSort Row.newer = rows.reverse.mergeSort Row.newer :=
  h.mergeSort_eq_of_perm rows.reverse_perm.symm

/-- The rows of a table that stand newest first are what sorting makes of it. -/
theorem Numbered.mergeSort_eq {rows sorted : List Row} (h : Numbered rows)
    (hp : rows.Perm sorted) (hsorted : sorted.Pairwise fun a b => Row.newer a b) :
    rows.mergeSort Row.newer = sorted := by
  rw [h.mergeSort_eq_of_perm hp]
  exact List.mergeSort_of_pairwise hsorted

/-- Leaving rows out and sorting may change places. -/
theorem mergeSort_filter (p : Row → Bool) (rows : List Row) :
    (rows.filter p).mergeSort Row.newer = (rows.mergeSort Row.newer).filter p := by
  -- leaving out is a way of reading, and what is left compares as it did
  rw [← List.filterMap_eq_filter]
  refine (filterMap_mergeSort Row.newer_trans Row.newer_total Row.newer_trans Row.newer_total
    (List.pairwise_of_forall fun a b x hx y hy => ?_)).symm
  rw [(Option.guard_eq_some_iff.mp hx).1, (Option.guard_eq_some_iff.mp hy).1]

/-- What sorted rows read as, sorted by times that compare as their stamps do: newest first, and of
equal times the larger number first. -/
theorem Numbered.filterMap_mergeSort {α : Type} {rows : List Row} (h : Numbered rows)
    {f : Row → Option α} {later : α → α → Bool}
    (ltrans : ∀ x y z, later x y → later y z → later x z)
    (ltotal : ∀ x y, later x y || later y x)
    (hf : ∀ a ∈ rows, ∀ b ∈ rows, ∀ x ∈ f a, ∀ y ∈ f b,
      later x y = !a.created.before b.created) :
    (rows.mergeSort Row.newer).filterMap f = (rows.filterMap f).reverse.mergeSort later := by
  -- backwards the larger number stands first, so only the stamps are left to compare
  rw [h.mergeSort_reverse, ← List.filterMap_reverse]
  refine Store.filterMap_mergeSort Row.newer_trans Row.newer_total ltrans ltotal ?_
  rw [List.pairwise_reverse]
  refine List.Pairwise.imp_of_mem (fun {a b} ha hb hlt x hx y hy => ?_) h
  rw [hf b hb a ha x hx y hy, Row.newer_of_id_le (Int.le_of_lt hlt)]

end EgressWatch.Store
