import EgressWatch.Proofs.Json.Skip

/-!
# Members as they stand in a text

The text of an object has a key and a value for each member, with space anywhere and the key spelled
in any way. An `Entry` is a member as it stands in a text: what the key stands for, and the value as
it is spelled. `EntriesText` says which texts have which entries, apart from what the values mean,
and `ObjectText` puts the braces around it. A written object is one of these texts, without any
space (`objectText_compact`).

What the entries of an object do to a record under construction is `ReadsEntries`: a known one is
put into the record by its field, which must not have been set before, and one that is not known is
passed over, as long as its value is JSON. That is said without a reader for the object; the readers
of single values are in it (`ReadsText`), and each may leave the space behind its value to the next.

> `takeRecord_entries`: the text of an object is read as what its entries make of an empty record,
> if the required members are there at the end (`closed`).

The proof goes through the entries as the reader does: a key with its separator and its colon
(`takeKey_denotes`, `takeColon_blank`), the value, and then the rest with less fuel, of which there
is enough since a text has no more entries than characters (`EntriesText.length_le`).
-/

namespace EgressWatch.Json

/-! ## Texts of objects -/

/-- A member as it stands in a text: its key, and its value with the space around it. -/
abbrev Entry := String × List Char

/-- The text of the members of an object up to its end. -/
inductive EntriesText : Bool → List Entry → List Char → Prop
  | nil {first : Bool} {s : List Char} (hs : Blank s) : EntriesText first [] s
  | cons {first : Bool} {sep s k t v cs : List Char} {key : String} {entries : List Entry}
      (hsep : Separator first sep) (hs : Blank s) (hk : Denotes k key.toList) (ht : Blank t)
      (h : EntriesText false entries cs) :
      EntriesText first ((key, v) :: entries)
        (sep ++ (s ++ '"' :: (k ++ '"' :: (t ++ ':' :: (v ++ cs)))))

/-- The text of an object. -/
def ObjectText (entries : List Entry) (cs : List Char) : Prop :=
  ∃ inner, EntriesText true entries inner ∧ cs = '\x7b' :: (inner ++ ['\x7d'])

/-- A text with space around it. -/
def Spaced (P : List Char → Prop) (v : List Char) : Prop :=
  ∃ s cs t, Blank s ∧ P cs ∧ Blank t ∧ v = s ++ (cs ++ t)

theorem Spaced.self {P : List Char → Prop} {cs : List Char} (h : P cs) : Spaced P cs :=
  ⟨[], cs, [], blank_nil, h, blank_nil, (List.append_nil cs).symm⟩

theorem Spaced.imp {P Q : List Char → Prop} (h : ∀ cs, P cs → Q cs) {v : List Char}
    (hv : Spaced P v) : Spaced Q v := by
  obtain ⟨s, cs, t, hs, hcs, ht, heq⟩ := hv
  exact ⟨s, cs, t, hs, h cs hcs, ht, heq⟩

theorem Spaced.valid {P : List Char → Prop} {v : List Char} (h : Spaced P v)
    (hP : ∀ cs, P cs → Valid .value cs) : Valid .element v := by
  obtain ⟨s, cs, t, hs, hcs, ht, rfl⟩ := h
  exact .element hs (hP cs hcs) ht

theorem EntriesText.valid {first : Bool} {entries : List Entry} {cs : List Char}
    (h : EntriesText first entries cs) (hv : ∀ e ∈ entries, Valid .element e.2) :
    Valid (.members first) cs := by
  induction h with
  | nil hs => exact .noMember hs
  | cons hsep hs hk ht _ ih =>
    obtain ⟨hvalue, hrest⟩ := List.forall_mem_cons.mp hv
    exact .member hsep hs hk.chars ht hvalue (ih hrest)

theorem ObjectText.valid {entries : List Entry} {cs : List Char} (h : ObjectText entries cs)
    (hv : ∀ e ∈ entries, Valid .element e.2) : Valid .value cs := by
  obtain ⟨inner, hinner, rfl⟩ := h
  exact .object (hinner.valid hv)

theorem EntriesText.numberEnd {entries : List Entry} {cs : List Char}
    (h : EntriesText false entries cs) (rest : List Char) : NumberEnd (cs ++ '\x7d' :: rest) := by
  cases h with
  | nil hs => exact .blank hs (numberEnd_cons (by decide))
  | cons hsep _ _ _ _ =>
    rw [List.append_assoc]
    exact numberEnd_separator hsep _

/-- There are no more entries than characters. -/
theorem EntriesText.length_le {first : Bool} {entries : List Entry} {cs : List Char}
    (h : EntriesText first entries cs) : entries.length ≤ cs.length := by
  induction h with
  | nil => exact Nat.zero_le _
  | cons _ _ _ _ _ ih =>
    simp only [List.length_append, List.length_cons]
    omega

/-! ## Written objects -/

theorem separator_comma (first : Bool) : Separator first (if first then [] else [',']) := by
  cases first with
  | true => exact separator_true
  | false => exact separator_false

/-- A member as it is written, before others. -/
theorem entriesText_cons (first : Bool) {s : List Char} (hs : Blank s) (k : String)
    {v cs : List Char} {entries : List Entry} (h : EntriesText false entries cs) :
    EntriesText first ((k, v) :: entries)
      ((if first then [] else [',']) ++ (s ++ (quoted k.toList ++ ':' :: (v ++ cs)))) := by
  rw [quoted_append]
  exact .cons (separator_comma first) hs (denotes_escaped _) blank_nil h

/-- The text of members: after others it starts with a comma. -/
def membersText (first : Bool) (ms : List (String × Json)) : List Char :=
  if first then compactMembers ms else membersAfter ms

theorem membersText_cons (first : Bool) (k : String) (v : Json) (ms : List (String × Json)) :
    membersText first ((k, v) :: ms) = (if first then [] else [',']) ++
      (quoted k.toList ++ ':' :: (compactText v ++ membersText false ms)) := by
  cases first <;> simp [membersText, membersAfter, compactMembers_cons]

theorem entriesText_membersText (first : Bool) (ms : List (String × Json)) :
    EntriesText first (ms.map fun m => (m.1, compactText m.2)) (membersText first ms) := by
  induction ms generalizing first with
  | nil =>
    have hend : membersText first [] = [] := by cases first <;> rfl
    rw [hend]
    exact .nil blank_nil
  | cons m ms ih =>
    obtain ⟨k, v⟩ := m
    rw [membersText_cons]
    exact entriesText_cons first blank_nil k (ih false)

theorem objectText_compact (ms : List (String × Json)) :
    ObjectText (ms.map fun m => (m.1, compactText m.2)) (compactText (.object ms)) :=
  ⟨_, entriesText_membersText true ms, by rw [compactText]; rfl⟩

theorem spaced_compact (ms : List (String × Json)) :
    Spaced (ObjectText (ms.map fun m => (m.1, compactText m.2)))
      (Json.object ms).compact.toList := by
  rw [compact, String.toList_ofList]
  exact .self (objectText_compact ms)

/-! ## Keys -/

theorem takeKey_blank {s : List Char} (hs : Blank s) (first : Bool) (cs : List Char) :
    takeKey first (s ++ cs) = takeKey first cs := by
  rw [takeKey, takeKey, skipSpace_append hs]

theorem takeKey_close {s : List Char} (hs : Blank s) (first : Bool) (rest : List Char) :
    takeKey first (s ++ '\x7d' :: rest) = .ok (none, rest) := by
  rw [takeKey, skipSpace_append hs, skipSpace_cons (by decide)]
  rfl

/-- A key is read as what its text stands for. -/
theorem takeKey_denotes {first : Bool} {sep s k : List Char} {key : String}
    (hsep : Separator first sep) (hs : Blank s) (hk : Denotes k key.toList) (rest : List Char) :
    takeKey first (sep ++ (s ++ '"' :: (k ++ '"' :: rest))) = .ok (some key, rest) := by
  have hkey : (takeQuoted [] (k ++ '"' :: rest)).map
      (fun taken => (some (String.ofList taken.1), taken.2)) = .ok (some key, rest) := by
    rw [takeQuoted_denotes hk]
    show Except.ok (some (String.ofList key.toList), rest) = _
    rw [String.ofList_toList]
  cases first with
  | true =>
    rw [show sep = [] from hsep, List.nil_append, takeKey_blank hs, takeKey,
      skipSpace_cons (by decide)]
    exact hkey
  | false =>
    obtain ⟨s', hs', rfl⟩ := hsep
    rw [List.append_assoc, takeKey_blank hs', takeKey, List.cons_append,
      skipSpace_cons (by decide)]
    show (if ',' = '\x7d' then _ else if false = true then _ else if ',' = ',' then _ else _) = _
    rw [if_neg (by decide), if_neg (by decide), if_pos rfl, List.nil_append, skipSpace_append hs,
      skipSpace_cons (by decide)]
    exact hkey

theorem takeKey_quoted (first : Bool) (k : String) (cs : List Char) :
    takeKey first ((if first then [] else [',']) ++ (quoted k.toList ++ cs)) =
      .ok (some k, cs) := by
  rw [quoted_append]
  exact takeKey_denotes (separator_comma first) blank_nil (denotes_escaped _) cs

theorem takeColon_blank {t : List Char} (ht : Blank t) (rest : List Char) :
    takeColon (t ++ ':' :: rest) = .ok rest := by
  rw [takeColon, skipSpace_append ht, skipSpace_cons (by decide)]
  rfl

theorem takeColon_colon (rest : List Char) : takeColon (':' :: rest) = .ok rest :=
  takeColon_blank blank_nil rest

/-! ## Reading entries -/

section

variable {σ : Type} {fields : List (Member σ)}

/-- A reader takes a text for `a`, up to what follows the space behind it. -/
def ReadsText {α : Type} (take : List Char → Except Fault (α × List Char)) (v : List Char)
    (a : α) : Prop :=
  ∃ t, Blank t ∧ ∀ rest, NumberEnd rest → take (v ++ rest) = .ok (a, t ++ rest)

/-- What the entries of an object make of a record under construction. -/
inductive ReadsEntries (fields : List (Member σ)) : List Entry → σ → σ → Prop
  | nil {s : σ} : ReadsEntries fields [] s s
  | known {f : Member σ} {k : String} {v : List Char} {entries : List Entry} {put : σ → σ}
      {s s' : σ} (hf : fields.find? (·.key == k) = some f) (hset : f.isSet s = false)
      (hv : ReadsText f.take v put) (h : ReadsEntries fields entries (put s) s') :
      ReadsEntries fields ((k, v) :: entries) s s'
  | unknown {k : String} {v : List Char} {entries : List Entry} {s s' : σ}
      (hf : fields.find? (·.key == k) = none) (hv : Valid .element v)
      (h : ReadsEntries fields entries s s') : ReadsEntries fields ((k, v) :: entries) s s'

theorem ReadsEntries.append {es es' : List Entry} {s t u : σ} (h : ReadsEntries fields es s t)
    (h' : ReadsEntries fields es' t u) : ReadsEntries fields (es ++ es') s u := by
  induction h with
  | nil => exact h'
  | known hf hset hv _ ih => exact .known hf hset hv (ih h')
  | unknown hf hv _ ih => exact .unknown hf hv (ih h')

/-- A record whose required members are all there is done at the end of its object. -/
def closed (fields : List (Member σ)) (s : σ) (rest : List Char) : Except Fault (σ × List Char) :=
  if fields.any fun f => f.required && !f.isSet s then .error .mismatched else .ok (s, rest)

theorem takeMembers_blank {t : List Char} (ht : Blank t) (fuel : Nat) (first : Bool) (s : σ)
    (cs : List Char) :
    takeMembers fields fuel first s (t ++ cs) = takeMembers fields fuel first s cs := by
  cases fuel with
  | zero => rfl
  | succ fuel => rw [takeMembers, takeMembers, takeKey_blank ht]

/-- The text of entries makes of a record what `ReadsEntries` says, and then the object ends. -/
theorem takeMembers_entries {entries : List Entry} {s s' : σ}
    (h : ReadsEntries fields entries s s') (rest : List Char) :
    ∀ (fuel : Nat) (first : Bool) (cs : List Char), EntriesText first entries cs →
      entries.length < fuel →
        takeMembers fields fuel first s (cs ++ '\x7d' :: rest) = closed fields s' rest := by
  -- on the entries, for any fuel that covers them
  induction h with
  | nil =>
    intro fuel first cs htext hfuel
    obtain ⟨fuel, rfl⟩ := Nat.exists_eq_succ_of_ne_zero (Nat.ne_zero_of_lt hfuel)
    cases htext with
    | nil hs =>
      simp only [takeMembers, takeKey_close hs, bind, Except.bind]
      rfl
  | known hf hset hv _ ih =>
    intro fuel first cs htext hfuel
    obtain ⟨fuel, rfl⟩ := Nat.exists_eq_succ_of_ne_zero (Nat.ne_zero_of_lt hfuel)
    cases htext with
    | cons hsep hs hk ht htext =>
      obtain ⟨t', ht', hread⟩ := hv
      simp only [List.append_assoc, List.cons_append, takeMembers, takeKey_denotes hsep hs hk, hf,
        hset, takeColon_blank ht, hread _ (htext.numberEnd rest), bind, Except.bind]
      exact (takeMembers_blank ht' ..).trans
        (ih fuel false _ htext (Nat.lt_of_succ_lt_succ hfuel))
  | unknown hf hv _ ih =>
    intro fuel first cs htext hfuel
    obtain ⟨fuel, rfl⟩ := Nat.exists_eq_succ_of_ne_zero (Nat.ne_zero_of_lt hfuel)
    cases htext with
    | cons hsep hs hk ht htext =>
      obtain ⟨t', ht', hskip⟩ := skip_valid hv
      have hvalue : skipValue _ = .ok _ := hskip [] _ (htext.numberEnd rest)
      simp only [List.append_assoc, List.cons_append, takeMembers, takeKey_denotes hsep hs hk, hf,
        takeColon_blank ht, hvalue, bind, Except.bind]
      exact (takeMembers_blank ht' ..).trans
        (ih fuel false _ htext (Nat.lt_of_succ_lt_succ hfuel))

/-- An object whose entries make a record of an empty one is read so, whatever follows it. -/
theorem takeRecord_entries {entries : List Entry} {empty s : σ}
    (h : ReadsEntries fields entries empty s) {cs : List Char} (htext : ObjectText entries cs)
    (rest : List Char) : takeRecord fields empty (cs ++ rest) = closed fields s rest := by
  obtain ⟨inner, hinner, rfl⟩ := htext
  rw [List.cons_append, List.append_assoc]
  show takeRecord fields empty ('\x7b' :: (inner ++ '\x7d' :: rest)) = _
  unfold takeRecord
  rw [skipSpace_cons (by decide)]
  apply takeMembers_entries h rest _ true inner hinner
  have := hinner.length_le
  simp only [List.length_append, List.length_cons]
  omega

end

end EgressWatch.Json
