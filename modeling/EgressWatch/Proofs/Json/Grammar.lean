import EgressWatch.Json.Skip
import EgressWatch.Proofs.Json.Number

/-!
# Which texts are JSON

The grammar of JSON, `Valid`, says nothing of what a text means and has no reader in it. It speaks
of the parts of a text (`Part`): a value, a value with the space around it, and the items of a list
or the members of an object from some place on, first ones or further ones, as only the latter have
a comma before them. Numbers and strings have grammars of their own (`IsNumber`, `Chars`).

What is read to be passed over is such a text, and conversely:

> `skip_valid`: every text of the grammar can be passed over, whatever its depth, and what follows
> it is reached.

Passing over is one loop with a stack of the lists and objects that are open, while the grammar is a
tree. `Skips` says for each part what the loop does with it under any stack, and the induction is on
the grammar, part by part. What a value does is told by `afterValue`, where passing over goes on
when a value has ended: at the outermost level it ends there, and otherwise looks for a further
item. Each step of the loop has an equation of its own (`skip_value_list` to
`skip_next_object_key`), so that the loop is opened nowhere else.
-/

namespace EgressWatch.Json

/-! ## The grammar -/

/-- The text is a number. -/
def IsNumber (cs : List Char) : Prop :=
  ∃ (l : Literal) (e : List Char), l.WellFormed ∧ Literal.SpellsExponent l.exponent e ∧
    cs = (if l.minus then ['-'] else []) ++ (l.whole ++ (Literal.fractionText l.fraction ++ e))

/-- What stands between items or members, if they are not the first, with space before it. -/
def Separator (first : Bool) (cs : List Char) : Prop :=
  if first then cs = [] else ∃ s, Blank s ∧ cs = s ++ [',']

/-- The parts of JSON text. -/
inductive Part where
  | value
  /-- A value with the space around it. -/
  | element
  /-- The items of a list up to its end, from the first on or after others. -/
  | items (first : Bool)
  /-- The members of an object up to its end, from the first on or after others. -/
  | members (first : Bool)

/-- The text is JSON. -/
inductive Valid : Part → List Char → Prop
  | null : Valid .value "null".toList
  | yes : Valid .value "true".toList
  | no : Valid .value "false".toList
  | number {cs : List Char} (h : IsNumber cs) : Valid .value cs
  | string {cs : List Char} (h : Chars cs) : Valid .value ('"' :: (cs ++ ['"']))
  | list {cs : List Char} (h : Valid (.items true) cs) : Valid .value ('[' :: (cs ++ [']']))
  | object {cs : List Char} (h : Valid (.members true) cs) :
      Valid .value ('\x7b' :: (cs ++ ['\x7d']))
  | element {s cs t : List Char} (hs : Blank s) (h : Valid .value cs) (ht : Blank t) :
      Valid .element (s ++ (cs ++ t))
  | noItem {first : Bool} {s : List Char} (hs : Blank s) : Valid (.items first) s
  | item {first : Bool} {sep v cs : List Char} (hsep : Separator first sep) (hv : Valid .element v)
      (h : Valid (.items false) cs) : Valid (.items first) (sep ++ (v ++ cs))
  | noMember {first : Bool} {s : List Char} (hs : Blank s) : Valid (.members first) s
  | member {first : Bool} {sep s k t v cs : List Char} (hsep : Separator first sep) (hs : Blank s)
      (hk : Chars k) (ht : Blank t) (hv : Valid .element v) (h : Valid (.members false) cs) :
      Valid (.members first) (sep ++ (s ++ '"' :: (k ++ '"' :: (t ++ ':' :: (v ++ cs)))))

/-! ## Starts -/

theorem IsNumber.start {cs : List Char} (h : IsNumber cs) (rest : List Char) :
    ∃ c r, cs ++ rest = c :: r ∧ (c = '-' ∨ c.isDigit = true) := by
  obtain ⟨l, e, hl, -, rfl⟩ := h
  cases hm : l.minus with
  | true => exact ⟨'-', _, rfl, .inl rfl⟩
  | false =>
    cases hw : l.whole with
    | nil => exact absurd hw hl.whole_ne
    | cons d ds => exact ⟨d, _, rfl, .inr (hl.whole_digits d (by rw [hw]; simp))⟩

/-- What values start with: no space, and not the end of a list. -/
def ValueStart (c : Char) : Prop := isSpace c = false ∧ c ≠ ']'

theorem Valid.start {cs : List Char} (h : Valid .value cs) (rest : List Char) :
    ∃ c r, cs ++ rest = c :: r ∧ ValueStart c := by
  cases h with
  | null => exact ⟨'n', _, rfl, by decide, by decide⟩
  | yes => exact ⟨'t', _, rfl, by decide, by decide⟩
  | no => exact ⟨'f', _, rfl, by decide, by decide⟩
  | number h =>
    obtain ⟨c, r, heq, hc⟩ := h.start rest
    obtain ⟨hs, -, -, -, -, -, -, he⟩ := numberStart_ne hc
    exact ⟨c, r, heq, hs, he⟩
  | string => exact ⟨'"', _, rfl, by decide, by decide⟩
  | list => exact ⟨'[', _, rfl, by decide, by decide⟩
  | object => exact ⟨'\x7b', _, rfl, by decide, by decide⟩

/-! ## Scalars and keys -/

/-- A number can be passed over. -/
theorem IsNumber.skipScalar {cs : List Char} (h : IsNumber cs) {rest : List Char}
    (hr : NumberEnd rest) : skipScalar (cs ++ rest) = .ok rest := by
  obtain ⟨c, r, heq, hc⟩ := h.start rest
  obtain ⟨-, hq, hn, ht, hf, -⟩ := numberStart_ne hc
  obtain ⟨l, e, hl, he, rfl⟩ := h
  rw [heq, Json.skipScalar, if_neg hq, if_neg hn, if_neg ht, if_neg hf, if_pos hc, ← heq,
    List.append_assoc, List.append_assoc, List.append_assoc, Literal.take_spelled hl he hr]
  rfl

/-- The key of a member and its colon can be passed over. -/
theorem skipKey_chars {s k t : List Char} (hs : Blank s) (hk : Chars k) (ht : Blank t)
    (rest : List Char) :
    skipKey (s ++ '"' :: (k ++ '"' :: (t ++ ':' :: rest))) = .ok rest := by
  have hcolon : skipSpace (t ++ ':' :: rest) = ':' :: rest := by
    rw [skipSpace_append ht, skipSpace_cons (by decide)]
  rw [skipKey, skipSpace_append hs, skipSpace_cons (by decide)]
  show (if '"' = '"' then _ else _) = _
  rw [if_pos rfl, skipQuoted_chars hk]
  simp only [bind, Except.bind, hcolon]
  rfl

/-! ## One step -/

/-- Where passing over goes on after a value that has ended. -/
def afterValue (stack : List Frame) (rest : List Char) : Except Fault (List Char) :=
  if stack.isEmpty then .ok rest else skip .next stack rest

/-- Space in front is passed over. -/
theorem skip_skipSpace (place : Place) (stack : List Frame) (cs : List Char) :
    skip place stack (skipSpace cs) = skip place stack cs := by
  rw [skip, skip, skipSpace_skipSpace]

theorem skip_blank {s : List Char} (hs : Blank s) (place : Place) (stack : List Frame)
    (cs : List Char) : skip place stack (s ++ cs) = skip place stack cs := by
  rw [← skip_skipSpace, skipSpace_append hs, skip_skipSpace]

/-- After a value in a list or an object, space is passed over. -/
theorem afterValue_blank {s : List Char} (hs : Blank s) (f : Frame) (stack : List Frame)
    (cs : List Char) : afterValue (f :: stack) (s ++ cs) = skip .next (f :: stack) cs :=
  skip_blank hs ..

theorem skip_value_list (stack : List Frame) (rest : List Char) :
    skip .value stack ('[' :: rest) = skip .first (.list :: stack) rest := by
  rw [skip, skipSpace_cons (by decide)]
  rfl

theorem skip_value_object (stack : List Frame) (rest : List Char) :
    skip .value stack ('\x7b' :: rest) = skip .first (.object :: stack) rest := by
  rw [skip, skipSpace_cons (by decide)]
  rfl

theorem skip_value_scalar (stack : List Frame) {c : Char} {cs rest : List Char}
    (hs : isSpace c = false) (hl : c ≠ '[') (ho : c ≠ '\x7b')
    (h : skipScalar (c :: cs) = .ok rest) :
    skip .value stack (c :: cs) = afterValue stack rest := by
  rw [skip, skipSpace_cons hs]
  simp only [if_neg hl, if_neg ho]
  split
  next hf => exact absurd (h.symm.trans hf) (by simp)
  next hf =>
    cases h.symm.trans hf
    rfl

/-- Where the items or members of a list or an object are looked for. -/
def Place.among (first : Bool) : Place := if first then .first else .next

theorem skip_list_end (first : Bool) (outer : List Frame) (rest : List Char) :
    skip (.among first) (.list :: outer) (']' :: rest) = afterValue outer rest := by
  cases first <;>
    · rw [skip, skipSpace_cons (by decide)]
      rfl

theorem skip_object_end (first : Bool) (outer : List Frame) (rest : List Char) :
    skip (.among first) (.object :: outer) ('\x7d' :: rest) = afterValue outer rest := by
  cases first <;>
    · rw [skip, skipSpace_cons (by decide)]
      rfl

theorem skip_next_list_comma (outer : List Frame) (rest : List Char) :
    skip .next (.list :: outer) (',' :: rest) = skip .value (.list :: outer) rest := by
  rw [skip, skipSpace_cons (by decide)]
  rfl

theorem skip_first_list_item (outer : List Frame) {c : Char} {cs : List Char} (h : ValueStart c) :
    skip .first (.list :: outer) (c :: cs) = skip .value (.list :: outer) (c :: cs) := by
  rw [skip, skipSpace_cons h.1]
  show (if c = ']' then _ else _) = _
  rw [if_neg h.2]

theorem skip_first_object_key (outer : List Frame) {c : Char} {cs rest : List Char}
    (hs : isSpace c = false) (hc : c ≠ '\x7d') (h : skipKey (c :: cs) = .ok rest) :
    skip .first (.object :: outer) (c :: cs) = skip .value (.object :: outer) rest := by
  rw [skip, skipSpace_cons hs]
  simp only [if_neg hc]
  split
  next hf => exact absurd (h.symm.trans hf) (by simp)
  next hf =>
    cases h.symm.trans hf
    rfl

theorem skip_next_object_key (outer : List Frame) {cs rest : List Char}
    (h : skipKey cs = .ok rest) :
    skip .next (.object :: outer) (',' :: cs) = skip .value (.object :: outer) rest := by
  rw [skip, skipSpace_cons (by decide)]
  show (if ',' = ',' then _ else _) = _
  rw [if_pos rfl]
  split
  next hf => exact absurd (h.symm.trans hf) (by simp)
  next hf =>
    cases h.symm.trans hf
    rfl

/-! ## What follows a value -/

theorem NumberEnd.blank {s rest : List Char} (hs : Blank s) (hr : NumberEnd rest) :
    NumberEnd (s ++ rest) := by
  cases s with
  | nil => exact hr
  | cons c s =>
    have hc := hs c List.mem_cons_self
    simp only [isSpace, Bool.or_eq_true, beq_iff_eq] at hc
    apply numberEnd_cons
    rcases hc with ((rfl | rfl) | rfl) | rfl <;> decide

theorem numberEnd_separator {sep : List Char} (h : Separator false sep) (rest : List Char) :
    NumberEnd (sep ++ rest) := by
  obtain ⟨s, hs, rfl⟩ := h
  rw [List.append_assoc]
  exact .blank hs (numberEnd_cons (by decide))

theorem Valid.numberEnd_items {cs : List Char} (h : Valid (.items false) cs) (rest : List Char) :
    NumberEnd (cs ++ ']' :: rest) := by
  cases h with
  | noItem hs => exact .blank hs (numberEnd_cons (by decide))
  | item hsep _ _ =>
    rw [List.append_assoc]
    exact numberEnd_separator hsep _

theorem Valid.numberEnd_members {cs : List Char} (h : Valid (.members false) cs)
    (rest : List Char) : NumberEnd (cs ++ '\x7d' :: rest) := by
  cases h with
  | noMember hs => exact .blank hs (numberEnd_cons (by decide))
  | member hsep _ _ _ _ _ =>
    rw [List.append_assoc]
    exact numberEnd_separator hsep _

/-! ## Whole values -/

/-- What becomes of a part of JSON text that is passed over. -/
def Skips : Part → List Char → Prop
  | .value, cs => ∀ stack rest, NumberEnd rest →
      skip .value stack (cs ++ rest) = afterValue stack rest
  | .element, cs => ∃ t, Blank t ∧ ∀ stack rest, NumberEnd rest →
      skip .value stack (cs ++ rest) = afterValue stack (t ++ rest)
  | .items first, cs => ∀ outer rest,
      skip (.among first) (.list :: outer) (cs ++ ']' :: rest) = afterValue outer rest
  | .members first, cs => ∀ outer rest,
      skip (.among first) (.object :: outer) (cs ++ '\x7d' :: rest) = afterValue outer rest

/-- An element is passed over in a list or an object up to what follows the space behind it. -/
theorem Skips.element {v : List Char} (h : Skips .element v) (f : Frame) (outer : List Frame)
    {rest : List Char} (hr : NumberEnd rest) :
    skip .value (f :: outer) (v ++ rest) = skip .next (f :: outer) rest := by
  obtain ⟨t, ht, hskip⟩ := h
  rw [hskip _ _ hr, afterValue_blank ht]

/-- What starts with a value is not taken for the end of a list. -/
theorem skip_first_element {v : List Char} (h : Valid .element v) (outer : List Frame)
    (rest : List Char) :
    skip .first (.list :: outer) (v ++ rest) = skip .value (.list :: outer) (v ++ rest) := by
  cases h with
  | @element s cs t hs hv ht =>
    obtain ⟨c, r, heq, hc⟩ := hv.start (t ++ rest)
    rw [List.append_assoc, List.append_assoc, skip_blank hs, skip_blank hs, heq,
      skip_first_list_item outer hc]

/-- A scalar is passed over in one step. -/
theorem skip_scalar {cs : List Char} {c : Char} {r : List Char} (hc : cs = c :: r)
    (hs : isSpace c = false) (hl : c ≠ '[') (ho : c ≠ '\x7b')
    (h : ∀ rest, NumberEnd rest → skipScalar (cs ++ rest) = .ok rest) : Skips .value cs := by
  subst hc
  exact fun stack rest hr => skip_value_scalar stack hs hl ho (h rest hr)

/-- JSON text is passed over, whatever is open around it. -/
theorem skip_valid {p : Part} {cs : List Char} (h : Valid p cs) : Skips p cs := by
  -- on the derivation, for every stack: what a value holds is passed over with one frame more
  induction h with
  | null =>
    exact skip_scalar rfl (by decide) (by decide) (by decide) fun rest _ =>
      takeWord_append ['u', 'l', 'l'] rest
  | yes =>
    exact skip_scalar rfl (by decide) (by decide) (by decide) fun rest _ =>
      takeWord_append ['r', 'u', 'e'] rest
  | no =>
    exact skip_scalar rfl (by decide) (by decide) (by decide) fun rest _ =>
      takeWord_append ['a', 'l', 's', 'e'] rest
  | number h =>
    obtain ⟨c, r, heq, hc⟩ := h.start []
    obtain ⟨hs, -, -, -, -, hl, ho, -⟩ := numberStart_ne hc
    rw [List.append_nil] at heq
    exact skip_scalar heq hs hl ho fun rest hr => h.skipScalar hr
  | @string cs h =>
    refine skip_scalar rfl (by decide) (by decide) (by decide) fun rest _ => ?_
    rw [List.cons_append, List.append_assoc, skipScalar, if_pos rfl]
    exact skipQuoted_chars h rest
  | list _ ih =>
    intro stack rest _
    rw [List.cons_append, List.append_assoc, skip_value_list]
    exact ih stack rest
  | object _ ih =>
    intro stack rest _
    rw [List.cons_append, List.append_assoc, skip_value_object]
    exact ih stack rest
  | @element s cs t hs _ ht ih =>
    refine ⟨t, ht, fun stack rest hr => ?_⟩
    rw [List.append_assoc, List.append_assoc, skip_blank hs]
    exact ih stack (t ++ rest) (hr.blank ht)
  | noItem hs =>
    intro outer rest
    rw [skip_blank hs, skip_list_end]
  | @item first sep v cs hsep hv h ihv ih =>
    intro outer rest
    rw [List.append_assoc, List.append_assoc]
    have hitem := (ihv.element .list outer (h.numberEnd_items rest)).trans (ih outer rest)
    cases first with
    | true =>
      rw [show sep = [] from hsep]
      exact (skip_first_element hv outer _).trans hitem
    | false =>
      obtain ⟨s, hs, rfl⟩ := hsep
      rw [List.append_assoc]
      exact (skip_blank hs ..).trans ((skip_next_list_comma outer _).trans hitem)
  | noMember hs =>
    intro outer rest
    rw [skip_blank hs, skip_object_end]
  | @member first sep s k t v cs hsep hs hk ht _ h ihv ih =>
    intro outer rest
    have hmember := (ihv.element .object outer (h.numberEnd_members rest)).trans (ih outer rest)
    simp only [List.append_assoc, List.cons_append]
    cases first with
    | true =>
      rw [show sep = [] from hsep]
      exact (skip_blank hs ..).trans
        ((skip_first_object_key outer (by decide) (by decide)
          (skipKey_chars blank_nil hk ht _)).trans hmember)
    | false =>
      obtain ⟨s', hs', rfl⟩ := hsep
      rw [List.append_assoc]
      exact (skip_blank hs' ..).trans
        ((skip_next_object_key outer (skipKey_chars hs hk ht _)).trans hmember)

end EgressWatch.Json
