import EgressWatch.Proofs.Json.Listing

/-!
# Objects as they are written

A value is written without any space or in lines (`Written`). Either way the text of an object is
that of its members in their order, each value written in its turn; in lines it has a blank before
it, and each member starts on a new line further in. Neither matters to a reader, so both forms are
brought to the texts that have entries:

> `Written.object`: an object is written as its members are, in their order.

The lines of members are like the members themselves but for space (`entriesText_memberLines`),
which may stand before every key and around every value. An object that has its members in another
order and among others is written as entries that list them (`lists_compact`), which is what reading
in any order asks for.
-/

namespace EgressWatch.Json

/-- The value as it is written, without space or in lines from some level on. -/
inductive Written (v : Json) : List Char → Prop
  | compact : Written v (compactText v)
  | pretty (level : Nat) : Written v (prettyText level v)

/-- A value that holds no others is one line. -/
theorem Scalar.prettyText_eq {v : Json} (h : v.Scalar) (level : Nat) :
    prettyText level v = compactText v := by
  rw [h.compactText_eq]
  cases v with
  | list items => exact h.elim
  | object members => exact h.elim
  | null | flag | whole | real | text => rw [prettyText] <;> simp

theorem Scalar.written_iff {v : Json} (h : v.Scalar) {cs : List Char} :
    Written v cs ↔ cs = compactText v := by
  constructor
  · intro hw
    cases hw with
    | compact => rfl
    | pretty level => exact h.prettyText_eq level
  · rintro rfl
    exact .compact

/-! ## Members -/

/-- The lines of members: after others they start with a comma. -/
def memberLines (level : Nat) (first : Bool) : List (String × Json) → List Char
  | [] => []
  | m :: ms => if first then prettyMembers level (m :: ms) else ',' :: prettyMembers level (m :: ms)

theorem memberLines_cons (level : Nat) (first : Bool) (k : String) (v : Json)
    (ms : List (String × Json)) : memberLines level first ((k, v) :: ms) =
      (if first then [] else [',']) ++ (newLine (level + 1) ++ (quoted k.toList ++
        ':' :: (' ' :: prettyText (level + 1) v ++ memberLines level false ms))) := by
  cases first <;> cases ms <;> simp [memberLines, prettyMembers]

theorem blank_newLine (level : Nat) : Blank (newLine level) := by
  refine List.forall_mem_cons.mpr ⟨by decide, fun c hc => ?_⟩
  rw [List.eq_of_mem_replicate hc]
  decide

theorem entriesText_memberLines (level : Nat) (first : Bool) (ms : List (String × Json)) :
    EntriesText first (ms.map fun m => (m.1, ' ' :: prettyText (level + 1) m.2))
      (memberLines level first ms ++ newLine level) := by
  induction ms generalizing first with
  | nil => exact .nil (blank_newLine level)
  | cons m ms ih =>
    obtain ⟨k, v⟩ := m
    have h := entriesText_cons first (blank_newLine (level + 1)) k
      (v := ' ' :: prettyText (level + 1) v) (ih false)
    rw [memberLines_cons]
    simpa only [List.map_cons, List.append_assoc, List.cons_append] using h

/-! ## Objects -/

theorem objectText_pretty (level : Nat) (ms : List (String × Json)) :
    ObjectText (ms.map fun m => (m.1, ' ' :: prettyText (level + 1) m.2))
      (prettyText level (.object ms)) := by
  cases ms with
  | nil => exact ⟨[], .nil blank_nil, by rw [prettyText]; rfl⟩
  | cons m ms =>
    refine ⟨_, entriesText_memberLines level true (m :: ms), ?_⟩
    simp [prettyText, memberLines]

/-- An object that has the members of another in any order, with their values spelled anew, among
others whose keys are not declared, is written as entries that list them. -/
theorem lists_compact {declared : List String} {Spelled : Json → List Char → Prop}
    {ms all : List (String × Json)} (spelled extras : List (String × Json))
    (hp : all.Perm (spelled ++ extras))
    (hspelled : List.Forall₂ (fun m n => n.1 = m.1 ∧ Spelled m.2 (compactText n.2)) ms spelled)
    (hextras : ∀ m ∈ extras, m.1 ∉ declared) :
    Lists declared Spelled ms (all.map fun m => (m.1, compactText m.2)) := by
  have hperm := hp.map fun m => (m.1, compactText m.2)
  rw [List.map_append] at hperm
  refine ⟨_, _, hperm, ?_, List.forall_mem_map.mpr fun m hm => ?_⟩
  · rw [List.forall₂_map_right_iff]
    exact hspelled.imp fun m n h => ⟨h.1, .self h.2⟩
  · exact ⟨hextras m hm, (valid_compactText m.2).bare⟩

/-- An object is written as its members are, in their order. -/
theorem Written.object {ms : List (String × Json)} {cs : List Char} (h : Written (.object ms) cs) :
    ∃ write : Json → List Char, (∀ v, Spaced (Written v) (write v)) ∧
      ObjectText (ms.map fun m => (m.1, write m.2)) cs := by
  cases h with
  | compact => exact ⟨compactText, fun v => .self .compact, objectText_compact ms⟩
  | pretty level =>
    refine ⟨fun v => ' ' :: prettyText (level + 1) v, fun v => ?_, objectText_pretty level ms⟩
    have hblank : Blank [' '] := List.forall_mem_singleton.mpr (by decide)
    exact ⟨[' '], _, [], hblank, .pretty (level + 1), blank_nil, by rw [List.append_nil]; rfl⟩

end EgressWatch.Json
