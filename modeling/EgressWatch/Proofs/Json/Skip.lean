import EgressWatch.Json.Value
import EgressWatch.Proofs.Json.Grammar

/-!
# Written values

Every value that is written is JSON, so it can be passed over, and what follows it is reached:

> `valid_compactText`: the text of a value belongs to the grammar.

Texts are written by three functions that call each other, for values, items and members, and the
proof has the same shape; scalars are dealt with one by one (`Scalar.valid`), where numbers rest on
their literals and strings on what stands between quotes. Items and members after the first have a
comma before them, which is part of their text here (`itemsAfter`, `membersAfter`): so the text of a
member and what follows it can be told apart wherever it stands, and what follows ends a number
(`numberEnd_membersAfter`).
-/

namespace EgressWatch.Json

/-! ## Scalars -/

/-- The value holds no others. -/
def Scalar : Json → Prop
  | .list _ => False
  | .object _ => False
  | _ => True

theorem Scalar.compactText_eq {v : Json} (h : v.Scalar) : compactText v = scalarText v := by
  cases v with
  | list items => exact h.elim
  | object members => exact h.elim
  | null | flag | whole | real | text => rw [compactText] <;> simp

theorem isNumber_text {l : Literal} (h : l.WellFormed) : IsNumber l.text :=
  ⟨l, _, h, Literal.spellsExponent_exponentText _, l.text_eq⟩

theorem valid_quoted (s : List Char) : Valid .value (quoted s) :=
  .string (denotes_escaped s).chars

theorem Scalar.valid {v : Json} (h : v.Scalar) : Valid .value (compactText v) := by
  rw [h.compactText_eq]
  cases v with
  | null => exact .null
  | flag b =>
    cases b with
    | true => exact .yes
    | false => exact .no
  | whole n =>
    obtain ⟨l, hl, ht⟩ := intText_eq_text n
    rw [scalarText, ht]
    exact .number (isNumber_text hl)
  | real x =>
    rw [scalarText, realText]
    split
    next =>
      obtain ⟨l, hl, -, ht⟩ := floatText_eq_text x
      rw [ht]
      exact .number (isNumber_text hl)
    next => exact .null
  | text s => exact valid_quoted s.toList
  | list items => exact h.elim
  | object members => exact h.elim

/-! ## Whole values -/

/-- The text of the items after the first. -/
def itemsAfter : List Json → List Char
  | [] => []
  | v :: rest => ',' :: compactItems (v :: rest)

/-- The text of the members after the first. -/
def membersAfter : List (String × Json) → List Char
  | [] => []
  | m :: rest => ',' :: compactMembers (m :: rest)

theorem compactItems_cons (v : Json) (items : List Json) :
    compactItems (v :: items) = compactText v ++ itemsAfter items := by
  cases items with
  | nil => rw [compactItems, itemsAfter, List.append_nil]
  | cons w items => rw [compactItems, itemsAfter]

theorem compactMembers_cons (k : String) (v : Json) (ms : List (String × Json)) :
    compactMembers ((k, v) :: ms) =
      quoted k.toList ++ ':' :: (compactText v ++ membersAfter ms) := by
  cases ms with
  | nil => rw [compactMembers, membersAfter, List.append_nil]
  | cons m ms =>
    rw [compactMembers, membersAfter]
    simp

theorem separator_true : Separator true [] := rfl

theorem separator_false : Separator false [','] := ⟨[], blank_nil, rfl⟩

theorem Valid.bare {v : List Char} (h : Valid .value v) : Valid .element v := by
  have := Valid.element blank_nil h blank_nil
  rwa [List.append_nil] at this

/-- A member as it is written, before others that are. -/
theorem valid_member {first : Bool} {sep v cs : List Char} (hsep : Separator first sep)
    (k : String) (hv : Valid .value v) (h : Valid (.members false) cs) :
    Valid (.members first) (sep ++ (quoted k.toList ++ ':' :: (v ++ cs))) := by
  rw [quoted_append]
  exact .member hsep blank_nil (denotes_escaped _).chars blank_nil hv.bare h

mutual

/-- A written value is JSON. -/
theorem valid_compactText (v : Json) : Valid .value (compactText v) := by
  cases v with
  | list items =>
    rw [compactText]
    refine .list ?_
    cases items with
    | nil => exact .noItem blank_nil
    | cons v items =>
      rw [compactItems_cons]
      exact .item separator_true (valid_compactText v).bare (valid_itemsAfter items)
  | object members =>
    rw [compactText]
    refine .object ?_
    cases members with
    | nil => exact .noMember blank_nil
    | cons m members =>
      obtain ⟨k, v⟩ := m
      rw [compactMembers_cons]
      exact valid_member separator_true k (valid_compactText v) (valid_membersAfter members)
  | null | flag | whole | real | text => exact Scalar.valid trivial

/-- So are items after one, up to the end of the list. -/
theorem valid_itemsAfter (items : List Json) : Valid (.items false) (itemsAfter items) := by
  cases items with
  | nil => exact .noItem blank_nil
  | cons v items =>
    rw [itemsAfter, compactItems_cons]
    exact .item separator_false (valid_compactText v).bare (valid_itemsAfter items)

/-- So are members after one, up to the end of the object. -/
theorem valid_membersAfter (ms : List (String × Json)) :
    Valid (.members false) (membersAfter ms) := by
  cases ms with
  | nil => exact .noMember blank_nil
  | cons m ms =>
    obtain ⟨k, v⟩ := m
    rw [membersAfter, compactMembers_cons]
    exact valid_member separator_false k (valid_compactText v) (valid_membersAfter ms)

end

theorem compactText_start (v : Json) : ∃ c cs, compactText v = c :: cs ∧ ValueStart c := by
  obtain ⟨c, cs, heq, hc⟩ := (valid_compactText v).start []
  exact ⟨c, cs, by rw [← heq, List.append_nil], hc⟩

/-- What follows a member, in an object or after all of them, ends a number. -/
theorem numberEnd_membersAfter (ms : List (String × Json)) (rest : List Char) :
    NumberEnd (membersAfter ms ++ '\x7d' :: rest) :=
  (valid_membersAfter ms).numberEnd_members rest

end EgressWatch.Json
