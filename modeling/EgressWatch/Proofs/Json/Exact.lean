import EgressWatch.Json.Record
import EgressWatch.Proofs.Json.Grammar

/-!
# Readers take whole values

What a reader takes off a text is what would be passed over there:

> `Exact take`: the reader takes values with space before them, and where it succeeds, it takes as
> much as is passed over, whatever is open around it.

It neither stops within a value nor goes on behind it. So a reader that accepts what starts with
JSON text leaves just what follows that text, whatever the reader is after (`Exact.rest_eq`): that
is how two readers of one text can be compared without a word about what they make of it.

Each reader of a scalar is exact, by what it does with the text in front: strings (`exact_string`),
flags (`exact_flag`), numbers (`exact_number`) and what is made of numbers (`Exact.map`,
`Exact.bind`). A number is looked for with two faults to tell, depending on the place, and which one
it is does not matter where a number is found (`Literal.take_early`).

Records are exact if their members are (`exact_record`). Passing over keeps a stack of what is open,
and reading keeps none, so the two are compared under any stack (`skip_append`). Then both go
through the text side by side, in objects key by key (`skip_takeKey`, `skip_takeMembers`) and in
lists, which stand for records as well, item by item (`skip_takeItem`, `skip_takeItems`).
-/

namespace EgressWatch.Json

/-! ## Steps of a reader -/

theorem bind_eq_ok {α β : Type} {x : Except Fault α} {f : α → Except Fault β} {b : β}
    (h : (x >>= f) = .ok b) : ∃ a, x = .ok a ∧ f a = .ok b := by
  cases x with
  | error fault => exact absurd h (by simp [bind, Except.bind])
  | ok a => exact ⟨a, rfl, h⟩

theorem map_eq_ok {α β : Type} {x : Except Fault α} {f : α → β} {b : β}
    (h : x.map f = .ok b) : ∃ a, x = .ok a ∧ f a = b := by
  cases x with
  | error fault => exact absurd h (by simp [Except.map])
  | ok a => exact ⟨a, rfl, Except.ok.inj h⟩

/-- The reader takes values with space before them, and where it succeeds, it takes as much as is
passed over, whatever is open around it. -/
structure Exact {α : Type} (take : List Char → Except Fault (α × List Char)) : Prop where
  space : ∀ cs, take (skipSpace cs) = take cs
  skips : ∀ cs a rest, take cs = .ok (a, rest) →
    ∀ stack, skip .value stack cs = afterValue stack rest

/-- A reader that accepts a text with a value in front leaves what follows the value. -/
theorem Exact.rest_eq {α : Type} {take : List Char → Except Fault (α × List Char)}
    (h : Exact take) {v : List Char} (hv : Valid .element v) :
    ∃ t, Blank t ∧ ∀ rest, NumberEnd rest → ∀ a r, take (v ++ rest) = .ok (a, r) →
      r = t ++ rest := by
  obtain ⟨t, ht, hskip⟩ := skip_valid hv
  refine ⟨t, ht, fun rest hr a r htake => ?_⟩
  have hsame := (h.skips _ _ _ htake []).symm.trans (hskip [] rest hr)
  exact Except.ok.inj hsame

/-! ## Strings -/

theorem takeWord_eq_ok {w cs rest : List Char} (h : takeWord w cs = .ok rest) :
    cs = w ++ rest := by
  induction w generalizing cs with
  | nil =>
    cases h
    rfl
  | cons c w ih =>
    cases cs with
    | nil => exact absurd h (by simp [takeWord])
    | cons x cs =>
      rw [takeWord] at h
      split at h
      next hx => rw [ih h, hx, List.cons_append]
      next => exact absurd h (by simp)

/-- An escape that is read can be passed over; a pair is passed over as two. -/
theorem skipQuoted_takeEscape {cs rest : List Char} {c : Char}
    (h : takeEscape cs = .ok (c, rest)) : skipQuoted ('\\' :: cs) = skipQuoted rest := by
  have hunit {cs rest : List Char} {n : Nat} (hn : takeHex cs = .ok (n, rest)) :
      skipQuoted ('\\' :: 'u' :: cs) = skipQuoted rest := by
    apply skipQuoted_escape
    rw [skipEscape, if_pos rfl, hn]
    rfl
  cases cs with
  | nil => exact absurd h (by simp [takeEscape])
  | cons x cs =>
    rw [takeEscape] at h
    split at h
    next hx =>
      subst hx
      obtain ⟨⟨high, r⟩, hhigh, h⟩ := bind_eq_ok h
      rw [hunit hhigh]
      simp only at h
      split at h
      next => exact absurd h (by simp)
      next =>
        split at h
        next => rw [(Prod.mk.inj (Except.ok.inj h)).2]
        next =>
          obtain ⟨r', hword, h⟩ := bind_eq_ok h
          obtain ⟨⟨low, r''⟩, hlow, h⟩ := bind_eq_ok h
          rw [takeWord_eq_ok hword]
          simp only at h
          split at h
          next =>
            obtain ⟨-, rfl⟩ := Prod.mk.inj (Except.ok.inj h)
            exact hunit hlow
          next => exact absurd h (by simp)
    next hx =>
      split at h
      next e he =>
        cases h
        apply skipQuoted_escape
        rw [skipEscape, if_neg hx, he]
        rfl
      next => exact absurd h (by simp)

theorem skipQuoted_takeQuoted {done cs s rest : List Char}
    (h : takeQuoted done cs = .ok (s, rest)) : skipQuoted cs = .ok rest := by
  fun_induction takeQuoted done cs with
  | case1 | case3 | case5 => exact absurd h (by simp)
  | case2 =>
    cases h
    rw [skipQuoted, if_pos rfl]
  | case4 done cs e r he _ ih => rw [skipQuoted_takeEscape he, ih h]
  | case6 done c cs hq hb hc ih => rw [skipQuoted, if_neg hq, if_neg hb, if_neg hc, ih h]

/-! ## Scalars -/

theorem skip_of_skipScalar {cs r rest : List Char} {c : Char} (hspace : skipSpace cs = c :: r)
    (hl : c ≠ '[') (ho : c ≠ '\x7b') (h : skipScalar (c :: r) = .ok rest) (stack : List Frame) :
    skip .value stack cs = afterValue stack rest := by
  rw [← skip_skipSpace, hspace]
  exact skip_value_scalar stack (isSpace_of_skipSpace hspace) hl ho h

theorem exact_string : Exact takeString := by
  refine ⟨fun cs => by rw [takeString, takeString, skipSpace_skipSpace], fun cs s rest h => ?_⟩
  unfold takeString at h
  split at h
  next r hspace =>
    obtain ⟨⟨x, r'⟩, hq, h⟩ := bind_eq_ok h
    rw [← (Prod.mk.inj (Except.ok.inj h)).2]
    apply skip_of_skipScalar hspace (by decide) (by decide)
    rw [skipScalar, if_pos rfl]
    exact skipQuoted_takeQuoted hq
  next => exact absurd h (by simp)

/-- A word that is read is passed over. -/
theorem map_takeWord_eq_ok {α : Type} {w cs rest : List Char} {a b : α}
    (h : (takeWord w cs).map ((b, ·)) = .ok (a, rest)) : takeWord w cs = .ok rest := by
  obtain ⟨r, hw, hr⟩ := map_eq_ok h
  rw [hw, (Prod.mk.inj hr).2]

theorem exact_flag : Exact takeFlag := by
  refine ⟨fun cs => by rw [takeFlag, takeFlag, skipSpace_skipSpace], fun cs b rest h => ?_⟩
  unfold takeFlag at h
  split at h
  next r hspace =>
    exact skip_of_skipScalar hspace (by decide) (by decide) (map_takeWord_eq_ok h)
  next r hspace =>
    exact skip_of_skipScalar hspace (by decide) (by decide) (map_takeWord_eq_ok h)
  next => exact absurd h (by simp)

section Early

variable {early early' : Fault} {cs rest : List Char}

theorem Literal.takeSomeDigits_early {ds : List Char}
    (h : takeSomeDigits early cs = .ok (ds, rest)) :
    takeSomeDigits early' cs = .ok (ds, rest) := by
  cases cs with
  | nil => exact absurd h (by simp [takeSomeDigits])
  | cons c cs => exact h

theorem Literal.takeWhole_early {ds : List Char} (h : takeWhole early cs = .ok (ds, rest)) :
    takeWhole early' cs = .ok (ds, rest) := by
  cases cs with
  | nil => exact absurd h (by simp [takeWhole])
  | cons c cs =>
    by_cases hc : c = '0'
    · subst hc
      exact h
    · simpa [takeWhole, hc] using h

theorem Literal.takeFraction_early {ds : Option (List Char)}
    (h : takeFraction early cs = .ok (ds, rest)) : takeFraction early' cs = .ok (ds, rest) := by
  unfold takeFraction at h ⊢
  split at h
  next cs =>
    obtain ⟨taken, hd, h⟩ := bind_eq_ok h
    simp only [takeSomeDigits_early hd]
    exact h
  next => exact h

theorem Literal.takeExponent_early {e : Option (Bool × List Char)}
    (h : takeExponent early cs = .ok (e, rest)) : takeExponent early' cs = .ok (e, rest) := by
  unfold takeExponent at h ⊢
  split at h
  next => exact h
  next c cs =>
    split at h
    next hmark =>
      obtain ⟨taken, hd, h⟩ := bind_eq_ok h
      have hd : takeSomeDigits early (takeSign cs).2 = .ok taken := hd
      simp only [if_pos hmark, takeSomeDigits_early hd]
      exact h
    next hmark =>
      rw [if_neg hmark]
      exact h

/-- Where a number is read, it does not matter which fault would have been told. -/
theorem Literal.take_early {l : Literal} (h : take early cs = .ok (l, rest)) :
    take early' cs = .ok (l, rest) := by
  obtain ⟨whole, hw, h⟩ := bind_eq_ok h
  have hw : takeWhole early (takeMinus cs).2 = .ok whole := hw
  obtain ⟨fraction, hf, h⟩ := bind_eq_ok h
  obtain ⟨exponent, he, h⟩ := bind_eq_ok h
  simp only [take, takeWhole_early hw, takeFraction_early hf, takeExponent_early he, bind,
    Except.bind]
  exact h

end Early

theorem exact_number : Exact takeNumber := by
  refine ⟨fun cs => by rw [takeNumber, takeNumber, skipSpace_skipSpace], fun cs n rest h => ?_⟩
  unfold takeNumber at h
  split at h
  next => exact absurd h (by simp)
  next c r hspace =>
    split at h
    next hc =>
      obtain ⟨-, hq, hn, ht, hf, hl, ho, -⟩ := numberStart_ne hc
      obtain ⟨⟨l, r'⟩, htake, h⟩ := bind_eq_ok h
      obtain ⟨n', -, h⟩ := bind_eq_ok h
      rw [← (Prod.mk.inj (Except.ok.inj h)).2]
      apply skip_of_skipScalar hspace hl ho
      rw [skipScalar, if_neg hq, if_neg hn, if_neg ht, if_neg hf, if_pos hc,
        Literal.take_early htake]
      rfl
    next => exact absurd h (by simp)

theorem exact_word : Exact takeUInt64 := by
  refine ⟨fun cs => by rw [takeUInt64, takeUInt64, exact_number.space], fun cs n rest h => ?_⟩
  obtain ⟨⟨m, r⟩, hn, h⟩ := bind_eq_ok h
  split at h
  next heq =>
    cases heq
    rw [← (Prod.mk.inj (Except.ok.inj h)).2]
    exact exact_number.skips _ _ _ hn
  next => exact absurd h (by simp)

/-- What is made of a value afterwards does not matter. -/
theorem Exact.map {α β : Type} {take : List Char → Except Fault (α × List Char)} (h : Exact take)
    (f : α → β) : Exact fun cs => (take cs).map fun taken => (f taken.1, taken.2) := by
  refine ⟨fun cs => by simp only [h.space], fun cs b rest hb => ?_⟩
  obtain ⟨taken, ht, htaken⟩ := map_eq_ok hb
  rw [← (Prod.mk.inj htaken).2]
  exact h.skips _ _ _ ht

/-- Nor does what may be found wrong with it. -/
theorem Exact.bind {α β : Type} {take : List Char → Except Fault (α × List Char)} (h : Exact take)
    (f : α → Except Fault β) :
    Exact (fun cs => do
      let (a, rest) ← take cs
      let b ← f a
      .ok (b, rest)) := by
  refine ⟨fun cs => by simp only [h.space], fun cs b rest hb => ?_⟩
  obtain ⟨taken, ht, hb⟩ := bind_eq_ok hb
  obtain ⟨b', -, hb⟩ := bind_eq_ok hb
  rw [← (Prod.mk.inj (Except.ok.inj hb)).2]
  exact h.skips _ _ _ ht

theorem exact_float : Exact takeFloat := exact_number.bind fun n => .ok n.toFloat

theorem Exact.member {σ α : Type} {take : List Char → Except Fault (α × List Char)} {key : String}
    {required : Bool} {isSet : σ → Bool} {put : α → σ → σ} (h : Exact take) :
    Exact (Member.of key required isSet take put).take :=
  h.map put

theorem Exact.optional {α : Type} {take : List Char → Except Fault (α × List Char)}
    (h : Exact take) : Exact (takeOptional take) := by
  refine ⟨fun cs => by rw [takeOptional, takeOptional, skipSpace_skipSpace],
    fun cs o rest ho => ?_⟩
  unfold takeOptional at ho
  split at ho
  next r hspace =>
    exact skip_of_skipScalar hspace (by decide) (by decide) (map_takeWord_eq_ok ho)
  next =>
    intro stack
    rw [← skip_skipSpace]
    exact (h.map some).skips _ _ _ ho stack

/-! ## Passing over inside of others -/

/-- What is open further out is left open. -/
theorem skip_append {place : Place} {stack : List Frame} {cs rest : List Char}
    (h : skip place stack cs = .ok rest) (outer : List Frame) :
    skip place (stack ++ outer) cs = afterValue outer rest := by
  have hlast {inner : List Frame} {r : List Char} (hempty : inner.isEmpty = true)
      (hr : (.ok r : Except Fault (List Char)) = .ok rest) :
      afterValue (inner ++ outer) r = afterValue outer rest := by
    rw [List.isEmpty_iff.mp hempty, Except.ok.inj hr]
    rfl
  have hmore {inner : List Frame} {r : List Char} (hempty : ¬ inner.isEmpty = true) :
      afterValue (inner ++ outer) r = skip .next (inner ++ outer) r := by
    cases inner with
    | nil => exact absurd rfl hempty
    | cons f inner => rfl
  -- on the calls: each of them makes the same step with more frames below
  fun_induction skip place stack cs with
  | case1 | case4 | case7 | case13 | case15 | case19 | case20 | case24 => exact absurd h (by simp)
  | case2 cs r stack hspace ih =>
    rw [← skip_skipSpace, hspace, skip_value_list]
    exact ih h
  | case3 cs r stack hspace _ ih =>
    rw [← skip_skipSpace, hspace, skip_value_object]
    exact ih h
  | case5 cs c r hspace stack hl ho r' hscalar hempty =>
    rw [skip_of_skipScalar hspace hl ho hscalar]
    exact hlast hempty h
  | case6 cs c r hspace stack hl ho r' hscalar hempty ih =>
    rw [skip_of_skipScalar hspace hl ho hscalar, hmore hempty]
    exact ih h
  | case8 cs r inner hempty hspace =>
    rw [← skip_skipSpace, hspace]
    exact (skip_list_end true ..).trans (hlast hempty h)
  | case9 cs r inner hempty hspace ih =>
    rw [← skip_skipSpace, hspace]
    exact (skip_list_end true ..).trans ((hmore hempty).trans (ih h))
  | case10 cs c r hspace inner hc ih =>
    rw [← skip_skipSpace, hspace]
    exact (skip_first_list_item _ ⟨isSpace_of_skipSpace hspace, hc⟩).trans (ih h)
  | case11 cs r inner hempty hspace =>
    rw [← skip_skipSpace, hspace]
    exact (skip_object_end true ..).trans (hlast hempty h)
  | case12 cs r inner hempty hspace ih =>
    rw [← skip_skipSpace, hspace]
    exact (skip_object_end true ..).trans ((hmore hempty).trans (ih h))
  | case14 cs c r hspace inner hc r' hkey ih =>
    rw [← skip_skipSpace, hspace]
    exact (skip_first_object_key _ (isSpace_of_skipSpace hspace) hc hkey).trans (ih h)
  | case16 cs r inner hspace ih =>
    rw [← skip_skipSpace, hspace]
    exact (skip_next_list_comma ..).trans (ih h)
  | case17 cs r inner hempty hspace =>
    rw [← skip_skipSpace, hspace]
    exact (skip_list_end false ..).trans (hlast hempty h)
  | case18 cs r inner hempty hspace _ ih =>
    rw [← skip_skipSpace, hspace]
    exact (skip_list_end false ..).trans ((hmore hempty).trans (ih h))
  | case21 cs r inner r' hkey hspace ih =>
    rw [← skip_skipSpace, hspace]
    exact (skip_next_object_key _ hkey).trans (ih h)
  | case22 cs r inner hempty hspace =>
    rw [← skip_skipSpace, hspace]
    exact (skip_object_end false ..).trans (hlast hempty h)
  | case23 cs r inner hempty hspace _ ih =>
    rw [← skip_skipSpace, hspace]
    exact (skip_object_end false ..).trans ((hmore hempty).trans (ih h))

/-! ## Records -/

section

variable {σ : Type} {fields : List (Member σ)}

/-- A key that is read with its colon is passed over. -/
theorem skipKey_takeQuoted {cs r rest s : List Char} (hkey : takeQuoted [] cs = .ok (s, r))
    (hcolon : takeColon r = .ok rest) : skipKey ('"' :: cs) = .ok rest := by
  rw [skipKey, skipSpace_cons (by decide)]
  show (if '"' = '"' then _ else _) = _
  rw [if_pos rfl, skipQuoted_takeQuoted hkey]
  exact hcolon

theorem map_takeQuoted_eq_ok {cs r : List Char} {o : Option String}
    (h : (takeQuoted [] cs).map (fun taken => (some (String.ofList taken.1), taken.2)) =
      .ok (o, r)) : o ≠ none ∧ ∃ s, takeQuoted [] cs = .ok (s, r) := by
  obtain ⟨taken, hq, htaken⟩ := map_eq_ok h
  obtain ⟨rfl, rfl⟩ := Prod.mk.inj htaken
  exact ⟨by simp, taken.1, hq⟩

/-- Where a key is read with its colon, the same is passed over; where the end is, what is open
ends. -/
theorem skip_takeKey {first : Bool} {cs r : List Char} {o : Option String}
    (hkey : takeKey first cs = .ok (o, r)) (outer : List Frame) :
    (o = none → skip (.among first) (.object :: outer) cs = afterValue outer r) ∧
    (o ≠ none → ∀ rest, takeColon r = .ok rest →
      skip (.among first) (.object :: outer) cs = skip .value (.object :: outer) rest) := by
  unfold takeKey at hkey
  split at hkey
  next => exact absurd hkey (by simp)
  next c cs' hspace =>
    rw [← skip_skipSpace, hspace]
    split at hkey
    next hc =>
      -- the end
      subst hc
      obtain ⟨rfl, rfl⟩ := Prod.mk.inj (Except.ok.inj hkey)
      exact ⟨fun _ => skip_object_end first outer _, fun h => absurd rfl h⟩
    next hc =>
      split at hkey
      next hfirst =>
        -- a first key
        subst hfirst
        split at hkey
        next hquote =>
          subst hquote
          obtain ⟨ho, s, hq⟩ := map_takeQuoted_eq_ok hkey
          exact ⟨fun h => absurd h ho, fun _ rest hcolon =>
            skip_first_object_key outer (by decide) (by decide) (skipKey_takeQuoted hq hcolon)⟩
        next => exact absurd hkey (by simp)
      next hfirst =>
        -- a key after a comma
        rw [Bool.not_eq_true] at hfirst
        subst hfirst
        split at hkey
        next hcomma =>
          subst hcomma
          split at hkey
          next => exact absurd hkey (by simp)
          next x cs'' hspace' =>
            split at hkey
            next hquote =>
              subst hquote
              obtain ⟨ho, s, hq⟩ := map_takeQuoted_eq_ok hkey
              refine ⟨fun h => absurd h ho, fun _ rest hcolon => skip_next_object_key outer ?_⟩
              rw [← skipKey_takeQuoted hq hcolon, ← hspace', skipKey, skipKey,
                skipSpace_skipSpace]
            next => exact absurd hkey (by simp)
        next => exact absurd hkey (by simp)

/-- The members of an object are passed over as far as they are read. -/
theorem skip_takeMembers (hexact : ∀ f ∈ fields, Exact f.take) (outer : List Frame) :
    ∀ (fuel : Nat) (first : Bool) (s s' : σ) (cs rest : List Char),
      takeMembers fields fuel first s cs = .ok (s', rest) →
        skip (.among first) (.object :: outer) cs = afterValue outer rest := by
  intro fuel
  induction fuel with
  | zero => exact fun _ _ _ _ _ h => absurd h (by simp [takeMembers])
  | succ fuel ih =>
    intro first s s' cs rest h
    obtain ⟨⟨o, r⟩, hkey, h⟩ := bind_eq_ok h
    obtain ⟨hend, hmember⟩ := skip_takeKey hkey outer
    cases o with
    | none =>
      simp only at h
      split at h
      next => exact absurd h (by simp)
      next =>
        rw [← (Prod.mk.inj (Except.ok.inj h)).2]
        exact hend rfl
    | some k =>
      simp only at h
      split at h
      next =>
        obtain ⟨r', hcolon, h⟩ := bind_eq_ok h
        obtain ⟨r'', hvalue, h⟩ := bind_eq_ok h
        rw [hmember (by simp) r' hcolon]
        exact (skip_append hvalue (.object :: outer)).trans (ih _ _ _ _ _ h)
      next f hf =>
        split at h
        next => exact absurd h (by simp)
        next =>
          obtain ⟨r', hcolon, h⟩ := bind_eq_ok h
          obtain ⟨⟨put, r''⟩, hvalue, h⟩ := bind_eq_ok h
          rw [hmember (by simp) r' hcolon]
          have hskip := (hexact f (List.mem_of_find?_eq_some hf)).skips _ _ _ hvalue
          exact (hskip (.object :: outer)).trans (ih _ _ _ _ _ h)

/-! ## Records in lists -/

theorem skip_takeListEnd {first : Bool} {cs rest : List Char} (h : takeListEnd cs = .ok rest)
    (outer : List Frame) : skip (.among first) (.list :: outer) cs = afterValue outer rest := by
  unfold takeListEnd at h
  split at h
  next => exact absurd h (by simp)
  next c r hspace =>
    split at h
    next hc =>
      subst hc
      rw [← skip_skipSpace, hspace, skip_list_end, Except.ok.inj h]
    next => exact absurd h (by simp)

/-- Where a further item is looked for, it is passed over to where one starts or to the end. -/
theorem skip_takeItem {first more : Bool} {cs r : List Char} (h : takeItem first cs = .ok (more, r))
    (outer : List Frame) :
    (more = true → skip (.among first) (.list :: outer) cs = skip .value (.list :: outer) r) ∧
    (more = false → r = skipSpace cs) := by
  unfold takeItem at h
  split at h
  next => exact absurd h (by simp)
  next c cs' hspace =>
    split at h
    next =>
      obtain ⟨rfl, rfl⟩ := Prod.mk.inj (Except.ok.inj h)
      exact ⟨by simp, fun _ => hspace.symm⟩
    next hc =>
      split at h
      next hfirst =>
        subst hfirst
        obtain ⟨rfl, rfl⟩ := Prod.mk.inj (Except.ok.inj h)
        refine ⟨fun _ => ?_, by simp⟩
        rw [← skip_skipSpace, hspace]
        exact skip_first_list_item outer ⟨isSpace_of_skipSpace hspace, hc⟩
      next hfirst =>
        rw [Bool.not_eq_true] at hfirst
        subst hfirst
        split at h
        next hcomma =>
          subst hcomma
          split at h
          next => exact absurd h (by simp)
          next x cs'' hspace' =>
            split at h
            next => exact absurd h (by simp)
            next =>
              obtain ⟨rfl, rfl⟩ := Prod.mk.inj (Except.ok.inj h)
              refine ⟨fun _ => ?_, by simp⟩
              rw [← skip_skipSpace, hspace, ← hspace', skip_skipSpace]
              exact skip_next_list_comma outer cs'
        next => exact absurd h (by simp)

theorem skip_takeItems (outer : List Frame) :
    ∀ (fields : List (Member σ)) (first : Bool) (s s' : σ) (cs rest : List Char),
      (∀ f ∈ fields, Exact f.take) → takeItems fields first s cs = .ok (s', rest) →
        skip (.among first) (.list :: outer) cs = afterValue outer rest := by
  intro fields
  induction fields with
  | nil =>
    intro first s s' cs rest _ h
    obtain ⟨r, hend, hr⟩ := map_eq_ok h
    rw [← (Prod.mk.inj hr).2]
    exact skip_takeListEnd hend outer
  | cons f fields ih =>
    intro first s s' cs rest hexact h
    obtain ⟨hf, hfields⟩ := List.forall_mem_cons.mp hexact
    obtain ⟨⟨more, r⟩, hitem, h⟩ := bind_eq_ok h
    obtain ⟨hmore, hend⟩ := skip_takeItem hitem outer
    simp only at h
    split at h
    next htrue =>
      obtain ⟨⟨put, r'⟩, hvalue, h⟩ := bind_eq_ok h
      rw [hmore htrue]
      exact (hf.skips _ _ _ hvalue (.list :: outer)).trans (ih _ _ _ _ _ hfields h)
    next hfalse =>
      split at h
      next => exact absurd h (by simp)
      next =>
        obtain ⟨r', hlist, hr⟩ := map_eq_ok h
        rw [← (Prod.mk.inj hr).2, ← skip_skipSpace, ← hend (by simpa using hfalse)]
        exact skip_takeListEnd hlist outer

/-- A record is read as far as it is passed over if its members are. -/
theorem exact_record (hexact : ∀ f ∈ fields, Exact f.take) (empty : σ) :
    Exact (takeRecord fields empty) := by
  refine ⟨fun cs => by rw [takeRecord, takeRecord, skipSpace_skipSpace],
    fun cs s rest h stack => ?_⟩
  unfold takeRecord at h
  rw [← skip_skipSpace]
  split at h
  next r hspace =>
    rw [hspace, skip_value_object]
    exact skip_takeMembers hexact stack _ true _ _ _ _ h
  next r hspace =>
    rw [hspace, skip_value_list]
    exact skip_takeItems stack fields true _ _ _ _ hexact h
  next => exact absurd h (by simp)

end

end EgressWatch.Json
