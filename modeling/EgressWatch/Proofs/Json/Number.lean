import EgressWatch.Proofs.Json.Quoted
import EgressWatch.Proofs.Text.Numerals

/-!
# Written numbers

A literal of the right form (`Literal.WellFormed`) is taken off the front of a text whole, as long
as what follows does not go on with it (`NumberEnd`):

> `Literal.take_spelled`: however its exponent is spelled, a literal is taken, and what follows is
> left.

It is put together from its parts as the reader takes them: sign, digits before the point, fraction
and exponent (`takeMinus_append` to `takeExponent_append`). All numbers that are written are such
literals: whole numbers (`intText_eq_text`) and doubles (`floatText_eq_text`). For the latter it
matters that the shortest decimal of a double other than 0 has a digit other than 0, since a literal
with an exponent does not start with one (`shortest_ne_zero`), and that the digits before the point
are few (`Literal.Short`), so that they are taken in without a loss.

What a literal is worth is decided after it has been taken (`takeNumber_text`). A word reads back as
itself (`takeUInt64_intText`). Of a double this is not said: reading takes one rounding step for
each power of ten and may end next to the number that was written. `Faithful` is the property of
those doubles that do read back, and they do so in any surroundings (`takeFloat_floatText`), since
the reader sees no more of a text than the literal.
-/

namespace EgressWatch.Json

open EgressWatch.Text

/-- Nothing at the front of a text would go on with a number. -/
def NumberEnd (cs : List Char) : Prop :=
  ∀ c ∈ cs.head?, c.isDigit = false ∧ c ≠ '.' ∧ c ≠ 'e' ∧ c ≠ 'E'

theorem numberEnd_nil : NumberEnd [] := by
  intro c hc
  exact absurd hc (by simp)

theorem numberEnd_cons {c : Char} {cs : List Char}
    (h : c.isDigit = false ∧ c ≠ '.' ∧ c ≠ 'e' ∧ c ≠ 'E') : NumberEnd (c :: cs) := by
  intro x hx
  have : c = x := by simpa using hx
  rw [← this]
  exact h

theorem NumberEnd.noDigitFirst {cs : List Char} (h : NumberEnd cs) : NoDigitFirst cs :=
  fun c hc => (h c hc).1

namespace Literal

/-- The literal has the form that numbers have in a text: digits before the point that start with
a 0 only if it stands alone, and digits wherever a point or an exponent mark announces some. -/
structure WellFormed (l : Literal) : Prop where
  whole_ne : l.whole ≠ []
  whole_digits : ∀ c ∈ l.whole, c.isDigit = true
  whole_zero : l.whole.head? = some '0' → l.whole = ['0']
  fraction_ne : ∀ ds, l.fraction = some ds → ds ≠ []
  fraction_digits : ∀ ds, l.fraction = some ds → ∀ c ∈ ds, c.isDigit = true
  exponent_ne : ∀ down ds, l.exponent = some (down, ds) → ds ≠ []
  exponent_digits : ∀ down ds, l.exponent = some (down, ds) → ∀ c ∈ ds, c.isDigit = true

/-- The digits before the point are few enough for a word, and do not start with a 0 where an
exponent tells the size. -/
structure Short (l : Literal) : Prop where
  whole_le : natural l.whole ≤ maxWord
  exponent_start : l.exponent ≠ none → l.whole.head? ≠ some '0'

theorem short_of_length {minus : Bool} {whole : List Char} {fraction : Option (List Char)}
    (hd : ∀ c ∈ whole, c.isDigit = true) (hlen : whole.length ≤ 16) :
    Short ⟨minus, whole, fraction, none⟩ where
  whole_le := Nat.le_of_lt (calc natural whole < 10 ^ whole.length := natural_lt hd
    _ ≤ 10 ^ 16 := Nat.pow_le_pow_right (by decide) hlen
    _ ≤ maxWord := by decide)
  exponent_start := fun h => absurd rfl h

/-! ## The parts of a literal -/

theorem takeSomeDigits_append {early : Fault} {ds rest : List Char}
    (hd : ∀ c ∈ ds, c.isDigit = true) (hne : ds ≠ []) (hr : NoDigitFirst rest) :
    takeSomeDigits early (ds ++ rest) = .ok (ds, rest) := by
  have hspan := spanDigits_of_append hd hr
  cases ds with
  | nil => exact absurd rfl hne
  | cons d ds =>
    rw [List.cons_append] at hspan ⊢
    rw [takeSomeDigits, if_pos (hd d (by simp)), hspan]

theorem takeWhole_append {early : Fault} {ds rest : List Char}
    (hd : ∀ c ∈ ds, c.isDigit = true) (hne : ds ≠ []) (hz : ds.head? = some '0' → ds = ['0'])
    (hr : NoDigitFirst rest) : takeWhole early (ds ++ rest) = .ok (ds, rest) := by
  have hspan := spanDigits_of_append hd hr
  cases ds with
  | nil => exact absurd rfl hne
  | cons d ds =>
    by_cases h0 : d = '0'
    · have halone : ds = [] := by
        have := hz (by simp [h0])
        simpa [h0] using this
      rw [h0, halone]
      cases rest with
      | nil => rfl
      | cons c rest =>
        have hc : c.isDigit = false := hr c (by simp)
        show (if c.isDigit then Except.error Fault.malformed else Except.ok (['0'], c :: rest)) = _
        rw [hc]
        rfl
    · rw [List.cons_append] at hspan ⊢
      unfold takeWhole
      split
      next h => exact absurd h (by simp)
      next h =>
        cases h
        exact absurd rfl h0
      next h =>
        cases h
        rw [if_pos (hd d (by simp)), hspan]

/-- The text of the fraction of a literal. -/
def fractionText : Option (List Char) → List Char
  | some ds => '.' :: ds
  | none => []

/-- The text of the exponent of a literal. -/
def exponentText : Option (Bool × List Char) → List Char
  | some (down, ds) => 'e' :: (if down then '-' else '+') :: ds
  | none => []

theorem text_eq (l : Literal) : l.text =
    (if l.minus then ['-'] else []) ++ (l.whole ++ (fractionText l.fraction ++
      exponentText l.exponent)) := by
  rw [text, List.append_assoc, List.append_assoc]
  rfl

/-- How an exponent may be spelled: with either mark, and a plus sign may be left out. -/
inductive SpellsExponent : Option (Bool × List Char) → List Char → Prop
  | none : SpellsExponent none []
  | bare {mark : Char} {ds : List Char} (hm : mark = 'e' ∨ mark = 'E') :
      SpellsExponent (some (false, ds)) (mark :: ds)
  | signed {mark : Char} {down : Bool} {ds : List Char} (hm : mark = 'e' ∨ mark = 'E') :
      SpellsExponent (some (down, ds)) (mark :: (if down then '-' else '+') :: ds)

theorem spellsExponent_exponentText (e : Option (Bool × List Char)) :
    SpellsExponent e (exponentText e) := by
  cases e with
  | none => exact .none
  | some p => exact .signed (.inl rfl)

theorem SpellsExponent.start {e : Option (Bool × List Char)} {cs rest : List Char}
    (h : SpellsExponent e cs) (hr : NumberEnd rest) :
    ∀ c ∈ (cs ++ rest).head?, c.isDigit = false ∧ c ≠ '.' := by
  have hmark : ∀ {mark : Char} {cs : List Char}, mark = 'e' ∨ mark = 'E' →
      ∀ c ∈ (mark :: cs).head?, c.isDigit = false ∧ c ≠ '.' := by
    intro mark cs hm c hc
    rw [← Option.some.inj hc]
    rcases hm with rfl | rfl <;> decide
  cases h with
  | none => exact fun c hc => ⟨(hr c hc).1, (hr c hc).2.1⟩
  | bare hm => exact hmark hm
  | signed hm => exact hmark hm

theorem noDigitFirst_fractionText {f : Option (List Char)} {rest : List Char}
    (hr : NoDigitFirst rest) : NoDigitFirst (fractionText f ++ rest) := by
  cases f with
  | none => exact hr
  | some ds => exact noDigitFirst_cons rfl

theorem takeFraction_append {early : Fault} {f : Option (List Char)} {rest : List Char}
    (hne : ∀ ds, f = some ds → ds ≠ []) (hd : ∀ ds, f = some ds → ∀ c ∈ ds, c.isDigit = true)
    (hr : ∀ c ∈ rest.head?, c.isDigit = false ∧ c ≠ '.') :
    takeFraction early (fractionText f ++ rest) = .ok (f, rest) := by
  cases f with
  | none =>
    show takeFraction early rest = _
    unfold takeFraction
    split
    next => exact absurd rfl (hr '.' rfl).2
    next => rfl
  | some ds =>
    show takeFraction early ('.' :: (ds ++ rest)) = _
    simp only [takeFraction, takeSomeDigits_append (hd ds rfl) (hne ds rfl)
      (fun c hc => (hr c hc).1), bind, Except.bind]

theorem takeExponent_append {early : Fault} {e : Option (Bool × List Char)} {cs rest : List Char}
    (he : SpellsExponent e cs) (hne : ∀ down ds, e = some (down, ds) → ds ≠ [])
    (hd : ∀ down ds, e = some (down, ds) → ∀ c ∈ ds, c.isDigit = true) (hr : NumberEnd rest) :
    takeExponent early (cs ++ rest) = .ok (e, rest) := by
  have hmark : ∀ {mark : Char} {down : Bool} {ds signed : List Char},
      mark = 'e' ∨ mark = 'E' → e = some (down, ds) → takeSign signed = (down, ds ++ rest) →
        takeExponent early (mark :: signed) = .ok (e, rest) := by
    intro mark down ds signed hm heq hsign
    rw [takeExponent, if_pos hm, hsign, heq]
    simp only [takeSomeDigits_append (hd down ds heq) (hne down ds heq) hr.noDigitFirst, bind,
      Except.bind]
  cases he with
  | none =>
    cases rest with
    | nil => rfl
    | cons c rest =>
      obtain ⟨-, -, he, hE⟩ := hr c (by simp)
      rw [List.nil_append, takeExponent, if_neg (by simp [he, hE])]
  | @bare mark ds hm =>
    refine hmark hm rfl ?_
    -- the first digit is not taken for a sign
    cases ds with
    | nil => exact absurd rfl (hne false [] rfl)
    | cons d ds =>
      have hdigit : d.isDigit = true := hd false (d :: ds) rfl d (by simp)
      rw [List.cons_append]
      unfold takeSign
      split
      next heq =>
        rw [(List.cons.inj heq).1] at hdigit
        exact absurd hdigit (by decide)
      next heq =>
        rw [(List.cons.inj heq).1] at hdigit
        exact absurd hdigit (by decide)
      next => rfl
  | @signed mark down ds hm => exact hmark hm rfl (by cases down <;> rfl)

theorem takeMinus_append {m : Bool} {ds : List Char} (hd : ∀ c ∈ ds.head?, c.isDigit = true) :
    takeMinus ((if m then ['-'] else []) ++ ds) = (m, ds) := by
  cases m with
  | true => rfl
  | false =>
    show takeMinus ds = _
    unfold takeMinus
    split
    next rest =>
      have : '-'.isDigit = true := hd '-' (by simp)
      exact absurd this (by decide)
    next => rfl

/-- The sign and the digits before the point are taken whole, and then come the other parts. -/
theorem take_whole {early : Fault} {l : Literal} {rest : List Char} (h : l.WellFormed)
    (hr : NoDigitFirst rest) :
    take early ((if l.minus then ['-'] else []) ++ (l.whole ++ rest)) = (do
      let (fraction, rest) ← takeFraction early rest
      let (exponent, rest) ← takeExponent early rest
      .ok (⟨l.minus, l.whole, fraction, exponent⟩, rest)) := by
  have hhead : ∀ c ∈ (l.whole ++ rest).head?, c.isDigit = true := by
    cases hw : l.whole with
    | nil => exact absurd hw h.whole_ne
    | cons d ds =>
      intro c hc
      have : d = c := by simpa using hc
      rw [← this]
      exact h.whole_digits d (by rw [hw]; simp)
  rw [take, takeMinus_append hhead]
  simp only [takeWhole_append h.whole_digits h.whole_ne h.whole_zero hr, bind, Except.bind]

/-- A literal of the right form is taken off the front of a text whole, however its exponent is
spelled. -/
theorem take_spelled {early : Fault} {l : Literal} {e rest : List Char} (h : l.WellFormed)
    (he : SpellsExponent l.exponent e) (hr : NumberEnd rest) :
    take early ((if l.minus then ['-'] else []) ++ (l.whole ++ (fractionText l.fraction ++
      (e ++ rest)))) = .ok (l, rest) := by
  have hstart := he.start hr
  rw [take_whole h (noDigitFirst_fractionText fun c hc => (hstart c hc).1)]
  simp only [takeFraction_append h.fraction_ne h.fraction_digits hstart,
    takeExponent_append he h.exponent_ne h.exponent_digits hr, bind, Except.bind]

theorem take_text {early : Fault} {l : Literal} {rest : List Char} (h : l.WellFormed)
    (hr : NumberEnd rest) : take early (l.text ++ rest) = .ok (l, rest) := by
  rw [text_eq, List.append_assoc, List.append_assoc, List.append_assoc]
  exact take_spelled h (spellsExponent_exponentText _) hr

end Literal

/-! ## Whole numbers -/

theorem wellFormed_digits (minus : Bool) (n : Nat) :
    Literal.WellFormed ⟨minus, digits n, none, none⟩ where
  whole_ne := digits_ne_nil n
  whole_digits := fun _ hc => isDigit_of_mem_digits hc
  whole_zero := by
    intro h
    by_cases hn : n = 0
    · rw [hn]
      rfl
    · exact absurd h (head?_digits_ne_zero hn)
  fraction_ne := by simp
  fraction_digits := by simp
  exponent_ne := by simp
  exponent_digits := by simp

/-- A whole number is written as a literal. -/
theorem intText_eq_text (n : Int) : ∃ l : Literal, l.WellFormed ∧ intText n = l.text := by
  by_cases h : n < 0
  · exact ⟨_, wellFormed_digits true n.natAbs, by simp [intText, h, Literal.text]⟩
  · exact ⟨_, wellFormed_digits false n.toNat, by simp [intText, h, Literal.text]⟩

/-- Digits that a word holds are all taken into the significand. -/
theorem wholePart_eq {ds : List Char} {m : Nat} (h : Nat.ofDigitChars 10 ds m ≤ maxWord) :
    wholePart m ds = (Nat.ofDigitChars 10 ds m, 0) := by
  induction ds generalizing m with
  | nil => rfl
  | cons d ds ih =>
    have hstep : m * 10 + (d.toNat - 48) = 10 * m + (d.toNat - '0'.toNat) := by
      rw [Nat.mul_comm]
      rfl
    rw [Nat.ofDigitChars_cons] at h ⊢
    -- none of the beginnings of a number is too large if the number is not
    rw [wholePart, hstep, if_pos (Nat.le_trans (le_ofDigitChars ds _) h), ih h]

theorem value_digits {n : Nat} (h : n ≤ maxWord) :
    Literal.value ⟨false, digits n, none, none⟩ = .ok (.natural (UInt64.ofNat n)) := by
  have hn : Nat.ofDigitChars 10 (digits n) 0 = n := natural_digits n
  have hw : wholePart 0 (digits n) = (n, 0) := by
    rw [wholePart_eq (by rw [hn]; exact h), hn]
  simp only [Literal.value, hw]
  rfl

/-! ## Doubles -/

/-- A double is known by its bits. -/
theorem toBits_inj {x y : Float} (h : x.toBits = y.toBits) : x = y := by
  obtain ⟨xbits, xvalid⟩ := x
  obtain ⟨ybits, yvalid⟩ := y
  have : xbits = ybits := h
  subst this
  rfl

/-- A double without a significand is one of the two zeros. -/
theorem ofFloat_m_ne_zero {x : Float} (h : (x == 0.0) = false) :
    (Decimal.Binary.ofFloat x).m ≠ 0 := by
  intro hm
  have hbits : x.toBits.toNat % 9223372036854775808 = 0 := by
    simp only [Decimal.Binary.ofFloat] at hm
    split at hm
    next hp =>
      simp only [Decimal.Binary.hiddenBit] at hm hp
      omega
    next =>
      simp only [Decimal.Binary.hiddenBit] at hm
      omega
  -- nothing but the sign bit can be set
  have hlt := x.toBits.toNat_lt
  have hzero : x.toBits = 0 ∨ x.toBits = 9223372036854775808 := by
    have hcases : x.toBits.toNat = 0 ∨ x.toBits.toNat = 9223372036854775808 := by omega
    rcases hcases with h0 | h1
    · exact .inl (UInt64.toNat_inj.mp h0)
    · exact .inr (UInt64.toNat_inj.mp h1)
  rcases hzero with h0 | h1
  · have hx : x = Float.ofBits 0 := toBits_inj (h0.trans (by decide))
    rw [hx] at h
    exact absurd h (by decide)
  · have hx : x = Float.ofBits 9223372036854775808 := toBits_inj (h1.trans (by decide))
    rw [hx] at h
    exact absurd h (by decide)

/-- The multiple 0 of a step rounds to no number other than 0. -/
theorem hits_zero {b : Decimal.Binary} (hm : b.m ≠ 0) (g : Int) : b.hits g 0 = false := by
  have hlow : 0 < b.low := by
    unfold Decimal.Binary.low
    split <;> omega
  have hup : 0 < (b.toGrid g).1 :=
    Nat.mul_pos (Nat.pow_pos (by decide)) (Nat.pow_pos (by decide))
  have hpos : 0 < b.low * (b.toGrid g).1 := Nat.mul_pos hlow hup
  -- the interval of the double starts above 0, so 0 is not in it, whether or not its ends are
  unfold Decimal.Binary.hits
  simp only [Nat.zero_mul]
  split
  · rw [decide_eq_false (by omega), Bool.false_and]
  · rw [decide_eq_false (by omega), Bool.false_and]

theorem onGrid_ne_zero {b : Decimal.Binary} {g : Int} {c : Nat} (hm : b.m ≠ 0)
    (h : b.onGrid g = some c) : c ≠ 0 := by
  -- what is returned either rounds to the double, which 0 does not, or is a successor
  intro h0
  subst h0
  have hz := hits_zero hm g
  unfold Decimal.Binary.onGrid at h
  simp only at h
  split at h
  next => exact absurd h (by simp)
  next hc _ =>
    have := Option.some.inj h
    rw [this, hz] at hc
    exact absurd hc (by simp)
  next => exact absurd (Option.some.inj h) (Nat.succ_ne_zero _)
  next hc _ =>
    split at h
    next =>
      have := Option.some.inj h
      rw [this, hz] at hc
      exact absurd hc (by simp)
    next => exact absurd (Option.some.inj h) (Nat.succ_ne_zero _)

theorem search_ne_zero {b : Decimal.Binary} {top : Int} (hm : b.m ≠ 0) :
    ∀ (fuel count : Nat) {c : Nat} {g : Int}, b.search top fuel count = some (c, g) → c ≠ 0 := by
  intro fuel
  induction fuel with
  | zero =>
    intro count c g h
    exact absurd h (by simp [Decimal.Binary.search])
  | succ fuel ih =>
    intro count c g h
    simp only [Decimal.Binary.search] at h
    split at h
    next c' hc =>
      simp only [Option.some.injEq, Prod.mk.injEq] at h
      rw [← h.1]
      exact onGrid_ne_zero hm hc
    next => exact ih (count + 1) h

theorem stripZeros_ne_zero : ∀ (fuel : Nat) {d : Decimal.Scaled}, d.digits ≠ 0 →
    (Decimal.stripZeros fuel d).digits ≠ 0 := by
  intro fuel
  induction fuel with
  | zero =>
    intro d h
    exact h
  | succ fuel ih =>
    intro d h
    rw [Decimal.stripZeros]
    split
    next hz =>
      apply ih
      show d.digits / 10 ≠ 0
      omega
    next => exact h

/-- The shortest decimal of a double other than 0 is not 0. -/
theorem shortest_ne_zero {x : Float} (h : (x == 0.0) = false) :
    (Decimal.shortest x).digits ≠ 0 := by
  have hm := ofFloat_m_ne_zero h
  unfold Decimal.shortest
  simp only
  split
  next hs => exact stripZeros_ne_zero 17 (search_ne_zero hm _ _ hs)
  next => exact hm

/-- Digits with a fraction make a literal. -/
theorem wellFormed_fraction {whole ds : List Char} (hw : whole ≠ [])
    (hd : ∀ c ∈ whole, c.isDigit = true) (hz : whole.head? = some '0' → whole = ['0'])
    (hf : ds ≠ []) (hfd : ∀ c ∈ ds, c.isDigit = true) :
    Literal.WellFormed ⟨false, whole, some ds, none⟩ where
  whole_ne := hw
  whole_digits := hd
  whole_zero := hz
  fraction_ne := fun _ h => Option.some.inj h ▸ hf
  fraction_digits := fun _ h => Option.some.inj h ▸ hfd
  exponent_ne := by simp
  exponent_digits := by simp

/-- One digit other than 0 with an exponent makes a literal, and so it does with a fraction. -/
theorem wellFormed_exponent {c : Char} {f : Option (List Char)} (hc : c.isDigit = true)
    (hz : c ≠ '0') (hf : ∀ ds, f = some ds → ds ≠ [] ∧ ∀ x ∈ ds, x.isDigit = true) (down : Bool)
    (n : Nat) : Literal.WellFormed ⟨false, [c], f, some (down, digits n)⟩ where
  whole_ne := by simp
  whole_digits := by simpa using hc
  whole_zero := fun h => absurd (by simpa using h) hz
  fraction_ne := fun ds h => (hf ds h).1
  fraction_digits := fun ds h => (hf ds h).2
  exponent_ne := by
    intro _ ds h
    simp only [Option.some.injEq, Prod.mk.injEq] at h
    exact h.2 ▸ digits_ne_nil n
  exponent_digits := by
    intro _ ds h
    simp only [Option.some.injEq, Prod.mk.injEq] at h
    exact h.2 ▸ fun x hx => isDigit_of_mem_digits hx

theorem short_exponent {c : Char} {f : Option (List Char)} (hc : c.isDigit = true) (hz : c ≠ '0')
    (e : Bool × List Char) : Literal.Short ⟨false, [c], f, some e⟩ where
  whole_le := by
    have : natural [c] < 10 ^ 1 := natural_lt (by simpa using hc)
    exact Nat.le_trans (Nat.le_of_lt this) (by decide)
  exponent_start := fun _ h => hz (by simpa using h)

theorem isDigit_of_mem_zeros {n : Nat} {c : Char} (h : c ∈ List.replicate n '0') :
    c.isDigit = true := by
  rw [List.eq_of_mem_replicate h]
  rfl

/-- A decimal other than 0 is written as a short literal without a sign. -/
theorem decimalText_eq_text {d : Decimal.Scaled} (h : d.digits ≠ 0) :
    ∃ l : Literal, l.WellFormed ∧ l.Short ∧ l.minus = false ∧ decimalText d = l.text := by
  have hne := digits_ne_nil d.digits
  have hdig : ∀ c ∈ digits d.digits, c.isDigit = true := fun _ hc => isDigit_of_mem_digits hc
  have hzero := head?_digits_ne_zero h
  unfold decimalText
  simp only
  generalize hds : digits d.digits = ds at hne hdig hzero ⊢
  generalize d.exponent + (ds.length : Int) - 1 = top
  cases ds with
  | nil => exact absurd rfl hne
  | cons c cs =>
    have hfirst : c ≠ '0' := by simpa using hzero
    split
    next =>
      split
      next =>
        -- all digits stand before the point, with zeros up to it
        have hwhole : ∀ x ∈ c :: cs ++ List.replicate (top.toNat + 1 - (c :: cs).length) '0',
            x.isDigit = true := by
          intro x hx
          rcases List.mem_append.mp hx with hx | hx
          · exact hdig x hx
          · exact isDigit_of_mem_zeros hx
        refine ⟨⟨false, c :: cs ++ List.replicate (top.toNat + 1 - (c :: cs).length) '0',
          some ['0'], none⟩, wellFormed_fraction (by simp) hwhole ?_ (by simp) (by simp),
          Literal.short_of_length hwhole ?_, rfl, ?_⟩
        · intro hz
          exact absurd (by simpa using hz) hfirst
        · rw [List.length_append, List.length_replicate]
          omega
        · simp [Literal.text]
      next hgt =>
        -- the point stands among the digits
        have hwhole : ∀ x ∈ (c :: cs).take (top.toNat + 1), x.isDigit = true :=
          fun x hx => hdig x (List.mem_of_mem_take hx)
        refine ⟨⟨false, (c :: cs).take (top.toNat + 1), some ((c :: cs).drop (top.toNat + 1)),
          none⟩, wellFormed_fraction (by simp) hwhole ?_ ?_
          (fun x hx => hdig x (List.mem_of_mem_drop hx)), Literal.short_of_length hwhole ?_, rfl,
          ?_⟩
        · intro hz
          exact absurd (by simpa using hz) hfirst
        · intro hnil
          have := List.drop_eq_nil_iff.mp hnil
          omega
        · have := List.length_take_le (top.toNat + 1) (c :: cs)
          omega
        · simp [Literal.text]
    next =>
      split
      next =>
        -- all digits stand behind the point
        refine ⟨⟨false, ['0'], some (List.replicate (-top - 1).toNat '0' ++ c :: cs), none⟩,
          wellFormed_fraction (by simp) (by simp) (by simp) (by simp) ?_,
          Literal.short_of_length (by simp) (by simp), rfl, ?_⟩
        · intro x hx
          rcases List.mem_append.mp hx with hx | hx
          · exact isDigit_of_mem_zeros hx
          · exact hdig x hx
        · simp [Literal.text]
      next =>
        -- the first digit stands alone, and an exponent tells the size
        have hc := hdig c (by simp)
        cases cs with
        | nil =>
          exact ⟨_, wellFormed_exponent (f := none) hc hfirst (by simp) (decide (top < 0))
            top.natAbs, short_exponent hc hfirst _, rfl, by simp [Literal.text]⟩
        | cons y ys =>
          refine ⟨_, wellFormed_exponent (f := some (y :: ys)) hc hfirst ?_ (decide (top < 0))
            top.natAbs, short_exponent hc hfirst _, rfl, by simp [Literal.text]⟩
          intro ds hd
          rw [← Option.some.inj hd]
          exact ⟨by simp, fun x hx => hdig x (List.mem_cons_of_mem _ hx)⟩

/-- Every double is written as a short literal. -/
theorem floatText_eq_text (x : Float) :
    ∃ l : Literal, l.WellFormed ∧ l.Short ∧ floatText x = l.text := by
  have hsize : ∃ l : Literal, l.WellFormed ∧ l.Short ∧ l.minus = false ∧
      (if x == 0.0 then ['0', '.', '0'] else decimalText (Decimal.shortest x)) = l.text := by
    cases hx : x == 0.0 with
    | true =>
      refine ⟨⟨false, ['0'], some ['0'], none⟩, ?_,
        Literal.short_of_length (by simp) (by simp), rfl, rfl⟩
      constructor <;> simp
    | false => exact decimalText_eq_text (shortest_ne_zero hx)
  obtain ⟨l, hl, hs, hm, ht⟩ := hsize
  -- a minus sign is put before the size, that of the negative zero too
  by_cases hsign : x.toBits < 9223372036854775808
  · exact ⟨l, hl, hs, by rw [floatText, if_pos hsign, ht]; rfl⟩
  · refine ⟨{ l with minus := true }, ⟨hl.1, hl.2, hl.3, hl.4, hl.5, hl.6, hl.7⟩,
      ⟨hs.whole_le, hs.exponent_start⟩, ?_⟩
    rw [floatText, if_neg hsign, ht, Literal.text_eq, Literal.text_eq, hm]
    rfl

/-! ## Reading a number -/

/-- A number starts with a sign or a digit. -/
theorem text_start {l : Literal} (h : l.WellFormed) (rest : List Char) :
    ∃ c cs, l.text ++ rest = c :: cs ∧ (c = '-' ∨ c.isDigit = true) := by
  rw [Literal.text_eq]
  cases hm : l.minus with
  | true => exact ⟨'-', _, rfl, .inl rfl⟩
  | false =>
    cases hw : l.whole with
    | nil => exact absurd hw h.whole_ne
    | cons d ds => exact ⟨d, _, rfl, .inr (h.whole_digits d (by rw [hw]; simp))⟩

/-- A sign or a digit is no space, no letter, no quote and no bracket. -/
theorem numberStart_ne {c : Char} (h : c = '-' ∨ c.isDigit = true) :
    isSpace c = false ∧ c ≠ '"' ∧ c ≠ 'n' ∧ c ≠ 't' ∧ c ≠ 'f' ∧ c ≠ '[' ∧ c ≠ '\x7b' ∧ c ≠ ']' := by
  have hne : ∀ x : Char, x ≠ '-' → x.isDigit = false → c ≠ x := by
    intro x hm hd hc
    rw [hc, hd] at h
    exact h.elim hm (by simp)
  refine ⟨?_, ?_, ?_, ?_, ?_, ?_, ?_, ?_⟩
  · simp only [isSpace, Bool.or_eq_false_iff, beq_eq_false_iff_ne]
    exact ⟨⟨⟨hne _ (by decide) rfl, hne _ (by decide) rfl⟩, hne _ (by decide) rfl⟩,
      hne _ (by decide) rfl⟩
  all_goals exact hne _ (by decide) rfl

/-- A literal reads as its value, whatever follows that does not go on with it. -/
theorem takeNumber_text {l : Literal} {rest : List Char} (h : l.WellFormed) (hr : NumberEnd rest) :
    takeNumber (l.text ++ rest) = l.value.map fun n => (n, rest) := by
  obtain ⟨c, cs, heq, hc⟩ := text_start h rest
  unfold takeNumber
  rw [heq, skipSpace_cons (numberStart_ne hc).1]
  show (if c = '-' ∨ c.isDigit then Number.take (c :: cs) else _) = _
  rw [if_pos hc, ← heq]
  simp only [Number.take, Literal.take_text h hr, bind, Except.bind]
  cases l.value <;> rfl

/-- A word reads back. -/
theorem takeUInt64_intText (n : UInt64) {rest : List Char} (hr : NumberEnd rest) :
    takeUInt64 (intText n.toNat ++ rest) = .ok (n, rest) := by
  have htext : intText n.toNat = Literal.text ⟨false, digits n.toNat, none, none⟩ := by
    simp [intText, Literal.text]
  have hmax : n.toNat ≤ maxWord := Nat.le_of_lt_succ n.toNat_lt
  rw [htext, takeUInt64, takeNumber_text (wellFormed_digits false n.toNat) hr, value_digits hmax,
    UInt64.ofNat_toNat]
  rfl

/-- The double is finite and is read back exactly from what is written for it. -/
def Faithful (x : Float) : Prop :=
  x.isFinite = true ∧ (readAll takeFloat (Json.real x).compact).toOption = some x

instance (x : Float) : Decidable (Faithful x) := by unfold Faithful; infer_instance

/-- A faithful double is read back whatever follows. -/
theorem takeFloat_floatText {x : Float} (h : Faithful x) {rest : List Char} (hr : NumberEnd rest) :
    takeFloat (floatText x ++ rest) = .ok (x, rest) := by
  obtain ⟨hfin, hread⟩ := h
  obtain ⟨l, hl, -, ht⟩ := floatText_eq_text x
  have hcompact : (Json.real x).compact.toList = l.text ++ [] := by
    rw [Json.compact, String.toList_ofList, List.append_nil, ← ht]
    show realText x = _
    rw [realText, if_pos hfin]
  -- alone or before other text, it is the same literal that is read
  rw [readAll, hcompact, takeFloat, takeNumber_text hl numberEnd_nil] at hread
  rw [ht, takeFloat, takeNumber_text hl hr]
  cases hv : l.value with
  | error fault =>
    rw [hv] at hread
    exact absurd hread (by simp [bind, Except.bind, Except.map, Except.toOption])
  | ok n =>
    rw [hv] at hread
    have hx : some n.toFloat = some x := hread
    rw [← Option.some.inj hx]
    rfl

end EgressWatch.Json
