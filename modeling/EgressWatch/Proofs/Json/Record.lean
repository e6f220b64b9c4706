import EgressWatch.Proofs.Json.Entries

/-!
# Written records

An object that was written is read member by member: a member whose key is known is put into the
record under construction, one whose key is not known is passed over, and at the end the required
ones must be there. `Reads` says what the members of an object make of a record, in terms of the
values and not of their text:

> `takeRecord_object`: the text of an object is read as what its members make of an empty record.

It rests on what single values read as (`ReadsAs`): strings, flags, words, and those doubles that
read back at all, and each of them where it may be missing as well (`ReadsAs.optional`). A member
that is left out if it has no value goes with a field that need not be there (`reads_member?`), and
a member without a field is passed over (`reads_member?_unknown`).

A written object is one of the texts that have its members as entries (`Reads.written`), so what is
true of entries need not be proved again. Properties of a member that depend on its field are
carried through lists of members by `KnownAs` and `Relates`, once for all properties.
-/

namespace EgressWatch.Json

/-! ## Values -/

/-- A reader takes the text of a value for `a`, whatever follows that does not go on with it. -/
def ReadsAs {α : Type} (take : List Char → Except Fault (α × List Char)) (v : Json)
    (a : α) : Prop :=
  ∀ rest, NumberEnd rest → take (compactText v ++ rest) = .ok (a, rest)

theorem readsAs_text (s : String) : ReadsAs takeString (.text s) s := by
  intro rest _
  exact takeString_quoted s rest

theorem readsAs_flag (b : Bool) : ReadsAs takeFlag (.flag b) b := by
  intro rest _
  cases b with
  | true =>
    have hword : takeWord ['r', 'u', 'e'] ('r' :: 'u' :: 'e' :: rest) = .ok rest :=
      takeWord_append ['r', 'u', 'e'] rest
    show takeFlag ('t' :: 'r' :: 'u' :: 'e' :: rest) = _
    rw [takeFlag, skipSpace_cons (by decide)]
    show (takeWord ['r', 'u', 'e'] ('r' :: 'u' :: 'e' :: rest)).map _ = _
    rw [hword]
    rfl
  | false =>
    have hword : takeWord ['a', 'l', 's', 'e'] ('a' :: 'l' :: 's' :: 'e' :: rest) = .ok rest :=
      takeWord_append ['a', 'l', 's', 'e'] rest
    show takeFlag ('f' :: 'a' :: 'l' :: 's' :: 'e' :: rest) = _
    rw [takeFlag, skipSpace_cons (by decide)]
    show (takeWord ['a', 'l', 's', 'e'] ('a' :: 'l' :: 's' :: 'e' :: rest)).map _ = _
    rw [hword]
    rfl

theorem readsAs_word (n : UInt64) : ReadsAs takeUInt64 (.word n) n := by
  intro rest hr
  exact takeUInt64_intText n hr

theorem readsAs_real {x : Float} (h : Faithful x) : ReadsAs takeFloat (.real x) x := by
  intro rest hr
  show takeFloat (realText x ++ rest) = _
  rw [realText, if_pos h.1]
  exact takeFloat_floatText h hr

/-- What may be `null` is read as a value where the text does not start like `null`. -/
theorem takeOptional_cons {α : Type} {take : List Char → Except Fault (α × List Char)} {c : Char}
    {cs : List Char} (hs : isSpace c = false) (hn : c ≠ 'n') :
    takeOptional take (c :: cs) = (take (c :: cs)).map fun taken => (some taken.1, taken.2) := by
  unfold takeOptional
  rw [skipSpace_cons hs]
  split
  next heq => exact absurd (List.cons.inj heq).1 hn
  next => rfl

theorem ReadsAs.optional {α : Type} {take : List Char → Except Fault (α × List Char)} {v : Json}
    {a : α} (h : ReadsAs take v a) (hn : (compactText v).head? ≠ some 'n') :
    ReadsAs (takeOptional take) v (some a) := by
  intro rest hr
  obtain ⟨c, cs, hc, hs, -⟩ := compactText_start v
  have htake := h rest hr
  rw [hc] at htake hn ⊢
  rw [List.cons_append] at htake ⊢
  have hne : c ≠ 'n' := fun hcn => hn (congrArg some hcn)
  rw [takeOptional_cons hs hne, htake]
  rfl

/-! ## Members -/

variable {σ : Type} {fields : List (Member σ)}

/-- What the members of an object make of a record under construction. -/
inductive Reads (fields : List (Member σ)) : List (String × Json) → σ → σ → Prop
  | nil {s : σ} : Reads fields [] s s
  | known {f : Member σ} {k : String} {v : Json} {ms : List (String × Json)} {put : σ → σ}
      {s s' : σ} (hf : fields.find? (·.key == k) = some f) (hset : f.isSet s = false)
      (hv : ReadsAs f.take v put) (hms : Reads fields ms (put s) s') :
      Reads fields ((k, v) :: ms) s s'
  | unknown {k : String} {v : Json} {ms : List (String × Json)} {s s' : σ}
      (hf : fields.find? (·.key == k) = none) (hms : Reads fields ms s s') :
      Reads fields ((k, v) :: ms) s s'

theorem Reads.append {ms ns : List (String × Json)} {s t u : σ} (h : Reads fields ms s t)
    (h' : Reads fields ns t u) : Reads fields (ms ++ ns) s u := by
  induction h with
  | nil => exact h'
  | known hf hset hv _ ih => exact .known hf hset hv (ih h')
  | unknown hf _ ih => exact .unknown hf (ih h')

/-- A field reads its values by its reader. -/
theorem ReadsAs.member {α : Type} {take : List Char → Except Fault (α × List Char)} {v : Json}
    {a : α} {key : String} {required : Bool} {isSet : σ → Bool} {put : α → σ → σ}
    (h : ReadsAs take v a) : ReadsAs (Member.of key required isSet take put).take v (put a) := by
  intro rest hr
  show (take (compactText v ++ rest)).map _ = _
  rw [h rest hr]
  rfl

/-- A member that may be left out puts its value into the record if it has one. -/
theorem reads_member? {α : Type} {f : Member σ} {s : σ} (key : String) (toJson : α → Json)
    (o : Option α) (put : Option α → σ → σ) (hf : fields.find? (·.key == key) = some f)
    (hset : f.isSet s = false) (hv : ∀ a ∈ o, ReadsAs f.take (toJson a) (put (some a)))
    (hnone : put none s = s) : Reads fields (member? key toJson o) s (put o s) := by
  cases o with
  | none =>
    rw [hnone]
    exact .nil
  | some a => exact .known hf hset (hv a rfl) .nil

/-- A member that is not known changes nothing, be it there or left out. -/
theorem reads_member?_unknown {α : Type} {s : σ} {key : String} {toJson : α → Json}
    (hf : fields.find? (·.key == key) = none) (o : Option α) :
    Reads fields (member? key toJson o) s s := by
  cases o with
  | none => exact .nil
  | some a => exact .unknown hf .nil

/-- The member is known, and its field has something to do with its value. -/
def KnownAs (P : Member σ → Json → Prop) (fields : List (Member σ)) (m : String × Json) : Prop :=
  ∃ f, fields.find? (·.key == m.1) = some f ∧ P f m.2

/-- All fields that use the reader have something to do with the value. -/
def Relates {α : Type} (P : Member σ → Json → Prop)
    (take : List Char → Except Fault (α × List Char)) (v : Json) : Prop :=
  ∀ (key : String) (required : Bool) (isSet : σ → Bool) (put : α → σ → σ),
    P (.of key required isSet take put) v

theorem relates_of {α : Type} {P : Json → Prop} {take : List Char → Except Fault (α × List Char)}
    {v : Json} (h : P v) : Relates (fun (_ : Member σ) v => P v) take v :=
  fun _ _ _ _ => h

theorem knownAs_member? {α : Type} {P : Member σ → Json → Prop} {key : String} {toJson : α → Json}
    {o : Option α} (h : ∀ a ∈ o, KnownAs P fields (key, toJson a)) :
    ∀ m ∈ member? key toJson o, KnownAs P fields m := by
  cases o with
  | none => exact fun m hm => absurd hm List.not_mem_nil
  | some a =>
    intro m hm
    rw [List.mem_singleton.mp hm]
    exact h a rfl

/-- Written members are entries that make of a record what `Reads` says. -/
theorem Reads.written {ms : List (String × Json)} {s s' : σ} (h : Reads fields ms s s') :
    ReadsEntries fields (ms.map fun m => (m.1, compactText m.2)) s s' := by
  induction h with
  | nil => exact .nil
  | known hf hset hv _ ih => exact .known hf hset ⟨[], blank_nil, hv⟩ ih
  | unknown hf _ ih => exact .unknown hf (valid_compactText _).bare ih

/-- The text of an object is read as what its members make of an empty record. -/
theorem takeRecord_object {ms : List (String × Json)} {empty s : σ} (h : Reads fields ms empty s)
    (rest : List Char) :
    takeRecord fields empty (compactText (.object ms) ++ rest) = closed fields s rest :=
  takeRecord_entries h.written (objectText_compact ms) rest

end EgressWatch.Json
