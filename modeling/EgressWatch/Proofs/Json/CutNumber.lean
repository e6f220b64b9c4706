import EgressWatch.Proofs.Json.Magnitude
import EgressWatch.Proofs.Json.Number

/-!
# Numbers that are cut short

A text that ends in the middle of a number leaves either a number with fewer digits or a place where
a digit has to come (`ends_of_cut`). The parts of a literal are its sign, the digits before the
point, the fraction and the exponent; `Literal.CutTo` says which literals are left when it is cut
where a number may end, and `Ends` that the text is one of these or misses a digit. It is proved
from the back to the front: a cut in the exponent (`ends_exponent`), in the fraction or behind it
(`ends_fraction`), and anywhere.

A literal that is left need not have a value only because the whole one has, as values have to be
finite. So the second half is about sizes:

> `Literal.CutTo.value_isOk`: what is left of a short literal with a value has a value.

Without an exponent this is so since there are no more digits before the point than the literal had,
and a word holds those (`value_whole`, `scaled?_isSome`). With one, the exponent that is left is a
front of the digits there were, and so at most a tenth of it (`ten_mul_natural_le`); that one was at
most 308 for a significand other than 0 (`scaled?_le`), so this one is far from the largest.
-/

namespace EgressWatch.Json

open EgressWatch.Text

/-- A text in two parts that is cut is cut within the first part or behind it. -/
theorem cut_append {α : Type} {a b q r : List α} (h : a ++ b = q ++ r) :
    (∃ t, t ≠ [] ∧ a = q ++ t) ∨ ∃ t, q = a ++ t ∧ b = t ++ r := by
  rcases List.append_eq_append_iff.mp h with ⟨t, hq, hb⟩ | ⟨t, ha, hr⟩
  · exact .inr ⟨t, hq, hb⟩
  · by_cases ht : t = []
    · rw [ht, List.append_nil] at ha
      exact .inr ⟨[], by rw [ha, List.append_nil], by rw [hr, ht]; rfl⟩
    · exact .inl ⟨t, ht, ha⟩

theorem cut_cons {α : Type} {c x : α} {a q r : List α} (h : c :: a = x :: q ++ r) :
    c = x ∧ a = q ++ r :=
  List.cons.inj h

namespace Literal

/-- What is left of a literal that is cut where a number may end. -/
inductive CutTo : Literal → Literal → Prop
  | whole {m : Bool} {w w' : List Char} {f : Option (List Char)} {e : Option (Bool × List Char)}
      (hne : w' ≠ []) (hcut : w' <+: w) : CutTo ⟨m, w', none, none⟩ ⟨m, w, f, e⟩
  | fraction {m : Bool} {w f f' : List Char} {e : Option (Bool × List Char)} (hne : f' ≠ [])
      (hcut : f' <+: f) : CutTo ⟨m, w, some f', none⟩ ⟨m, w, some f, e⟩
  | exponent {m : Bool} {w : List Char} {f : Option (List Char)} {down : Bool} {e e' t : List Char}
      (hne : e' ≠ []) (ht : t ≠ []) (hcut : e = e' ++ t) :
      CutTo ⟨m, w, f, some (down, e')⟩ ⟨m, w, f, some (down, e)⟩

theorem CutTo.wellFormed {l l' : Literal} (h : CutTo l' l) (hl : l.WellFormed) : l'.WellFormed := by
  cases h with
  | whole hne hcut =>
    refine ⟨hne, fun c hc => hl.whole_digits c (hcut.subset hc), fun hz => ?_, by simp, by simp,
      by simp, by simp⟩
    obtain ⟨t, rfl⟩ := hcut
    rename_i w' f e
    cases w' with
    | nil => exact absurd rfl hne
    | cons c cs =>
      have := hl.whole_zero hz
      simp only [List.cons_append, List.cons.injEq, List.append_eq_nil_iff] at this
      rw [this.1, this.2.1]
  | fraction hne hcut =>
    refine ⟨hl.whole_ne, hl.whole_digits, hl.whole_zero, fun ds h => Option.some.inj h ▸ hne,
      fun ds h => ?_, by simp, by simp⟩
    rw [← Option.some.inj h]
    exact fun c hc => hl.fraction_digits _ rfl c (hcut.subset hc)
  | exponent hne ht hcut =>
    refine ⟨hl.whole_ne, hl.whole_digits, hl.whole_zero, hl.fraction_ne, hl.fraction_digits,
      fun down ds h => ?_, fun down ds h => ?_⟩
    · cases h
      exact hne
    · cases h
      exact fun c hc => hl.exponent_digits _ _ rfl c (hcut ▸ List.mem_append_left _ hc)

/-! ## What is taken of it -/

/-- A text ends where a digit has to come, or is what is left of a literal. -/
def Ends (l : Literal) (q : List Char) : Prop :=
  take .truncated q = .error .truncated ∨ ∃ l', CutTo l' l ∧ q = l'.text

section

variable {m : Bool} {w : List Char} {f : Option (List Char)} {e : Option (Bool × List Char)}
  {q r : List Char}

/-- A cut before the exponent, or within it. -/
theorem ends_exponent (hl : WellFormed ⟨m, w, f, e⟩) (h : exponentText e = q ++ r) (hr : r ≠ []) :
    Ends ⟨m, w, f, e⟩ ((if m then ['-'] else []) ++ (w ++ (fractionText f ++ q))) := by
  cases e with
  | none => exact absurd (List.append_eq_nil_iff.mp h.symm).2 hr
  | some p =>
    obtain ⟨down, ds⟩ := p
    have hmark {cs : List Char} : take .truncated ((if m then ['-'] else []) ++
        (w ++ (fractionText f ++ 'e' :: cs))) = (takeExponent .truncated ('e' :: cs)).map
          fun taken => (⟨m, w, f, taken.1⟩, taken.2) := by
      rw [take_whole hl (noDigitFirst_fractionText (noDigitFirst_cons rfl))]
      have hfraction : takeFraction .truncated (fractionText f ++ 'e' :: cs) = .ok (f, 'e' :: cs) :=
        takeFraction_append hl.fraction_ne hl.fraction_digits (by simp)
      simp only [hfraction, bind, Except.bind]
      cases takeExponent .truncated ('e' :: cs) <;> rfl
    match q, h with
    | [], _ =>
      cases f with
      | none =>
        exact .inr ⟨_, .whole hl.whole_ne (List.prefix_refl w), by simp [text, fractionText]⟩
      | some ds' =>
        exact .inr ⟨_, .fraction (hl.fraction_ne ds' rfl) (List.prefix_refl ds'),
          by simp [text, fractionText]⟩
    | [c], h =>
      left
      have hc : 'e' = c := (List.cons.inj h).1
      rw [← hc, hmark]
      rfl
    | c :: s :: ds', h =>
      have h : 'e' :: (if down then '-' else '+') :: ds = c :: s :: (ds' ++ r) := h
      simp only [List.cons.injEq] at h
      obtain ⟨rfl, rfl, hds⟩ := h
      by_cases hds' : ds' = []
      · left
        rw [hds', hmark]
        cases down <;> rfl
      · exact .inr ⟨_, .exponent hds' hr hds, by cases f <;> simp [text, fractionText]⟩

/-- A cut before the point or behind it. -/
theorem ends_fraction (hl : WellFormed ⟨m, w, f, e⟩) (h : fractionText f ++ exponentText e = q ++ r)
    (hr : r ≠ []) : Ends ⟨m, w, f, e⟩ ((if m then ['-'] else []) ++ (w ++ q)) := by
  rcases cut_append h with ⟨t, ht, hcut⟩ | ⟨q, rfl, hexponent⟩
  · cases f with
    | none => exact absurd (List.append_eq_nil_iff.mp hcut.symm).2 ht
    | some ds =>
      match q, hcut with
      | [], _ => exact .inr ⟨_, .whole hl.whole_ne (List.prefix_refl w), by simp [text]⟩
      | c :: ds', hcut =>
        have hcut : '.' :: ds = c :: (ds' ++ t) := hcut
        simp only [List.cons.injEq] at hcut
        obtain ⟨rfl, hds⟩ := hcut
        by_cases hds' : ds' = []
        · left
          rw [hds', take_whole hl (noDigitFirst_cons rfl)]
          rfl
        · exact .inr ⟨_, .fraction hds' ⟨t, hds.symm⟩, by simp [text]⟩
  · exact ends_exponent hl hexponent hr

end

/-- A number that is cut ends where a digit has to come, or is a number with fewer digits. -/
theorem ends_of_cut {l : Literal} {q r : List Char} (hl : l.WellFormed) (h : l.text = q ++ r)
    (hr : r ≠ []) : Ends l q := by
  obtain ⟨m, w, f, e⟩ := l
  have hminus : take .truncated (if m then ['-'] else []) = .error .truncated := by cases m <;> rfl
  rw [text_eq] at h
  rcases cut_append h with ⟨t, ht, hcut⟩ | ⟨q, rfl, hwhole⟩
  · -- nothing is left, for the sign is one character
    left
    have hq : q = [] := by
      cases m with
      | true =>
        cases q with
        | nil => rfl
        | cons c q =>
          simp only [↓reduceIte, List.cons_append, List.cons.injEq] at hcut
          exact absurd (List.append_eq_nil_iff.mp hcut.2.symm).2 ht
      | false => exact (List.append_eq_nil_iff.mp hcut.symm).1
    rw [hq]
    rfl
  rcases cut_append hwhole with ⟨t, ht, hcut⟩ | ⟨q, rfl, hfraction⟩
  · by_cases hq : q = []
    · left
      rw [hq, List.append_nil]
      exact hminus
    · exact .inr ⟨_, .whole hq ⟨t, hcut.symm⟩, by simp [text]⟩
  · exact ends_fraction hl hfraction hr

/-! ## Its value -/

/-- The significand does not shrink as digits are taken in. -/
theorem le_fractionPart (n taken : Nat) (ds : List Char) : n ≤ (fractionPart n taken ds).1 := by
  induction ds generalizing n taken with
  | nil => exact Nat.le_refl _
  | cons d ds ih =>
    rw [fractionPart]
    split
    next => exact Nat.le_trans (by omega) (ih _ _)
    next => exact Nat.le_refl _

/-- A short literal loses no digit before the point. -/
theorem size?_eq {m : Bool} {w : List Char} {f : Option (List Char)}
    {e : Option (Bool × List Char)} (h : natural w ≤ maxWord) :
    size? ⟨m, w, f, e⟩ = scaled? (fractionPart (natural w) 0 (f.getD [])).1
      (-((fractionPart (natural w) 0 (f.getD [])).2 : Int) + exponentValue ⟨m, w, f, e⟩) := by
  have hw : wholePart 0 w = (natural w, 0) := wholePart_eq h
  unfold size?
  simp only [hw]
  congr 1
  omega

theorem natural_le_of_front {ds' ds : List Char} (h : ds' <+: ds) : natural ds' ≤ natural ds := by
  obtain ⟨t, rfl⟩ := h
  unfold natural
  rw [Nat.ofDigitChars_append]
  exact le_ofDigitChars t _

theorem ten_mul_natural_le {ds t : List Char} (ht : t ≠ []) :
    10 * natural ds ≤ natural (ds ++ t) := by
  have hsum : natural (ds ++ t) = 10 ^ t.length * natural ds + natural t := by
    unfold natural
    rw [Nat.ofDigitChars_append, Nat.ofDigitChars_eq_ofDigitChars_zero]
  rw [hsum]
  have hten : 10 ≤ 10 ^ t.length :=
    Nat.le_self_pow (Nat.ne_of_gt (List.length_pos_iff.mpr ht)) 10
  exact Nat.le_trans (Nat.mul_le_mul_right _ hten) (Nat.le_add_right ..)

theorem natural_ne_zero {ds : List Char} (hne : ds ≠ []) (hd : ∀ c ∈ ds, c.isDigit = true)
    (hz : ds.head? ≠ some '0') : natural ds ≠ 0 := by
  intro h
  have hdigits := digits_natural hne hd fun h0 => absurd h0 hz
  rw [h] at hdigits
  exact hz (by rw [← hdigits]; rfl)

/-- A number other than 0 that a double holds has no larger power of ten than doubles have. -/
theorem scaled?_le {n : Nat} {e : Int} (hn : n ≠ 0) (h : (scaled? n e).isSome = true) :
    e ≤ 308 := by
  unfold scaled? at h
  simp only [if_neg hn] at h
  split at h
  next => omega
  next =>
    split at h
    next hle => exact hle
    next => exact absurd h (by simp)

/-- A literal whose size a double holds has a value. -/
theorem value_isOk {l : Literal} (hs : l.size?.isSome = true) : ∃ n, l.value = .ok n := by
  obtain ⟨x, hx⟩ := Option.isSome_iff_exists.mp hs
  unfold value
  split
  next =>
    split
    next => exact ⟨_, rfl⟩
    next =>
      split
      next => exact ⟨_, rfl⟩
      next => exact ⟨_, rfl⟩
  next => exact ⟨_, by rw [float?, hx]; rfl⟩

theorem size?_isSome {l : Literal} {p : Bool × List Char} {n : Number} (he : l.exponent = some p)
    (hv : l.value = .ok n) : l.size?.isSome = true := by
  cases hs : l.size? with
  | some x => rfl
  | none =>
    unfold value at hv
    rw [he] at hv
    simp only [float?, hs] at hv
    exact absurd hv (by simp)

/-- A whole number that a word holds has a value, and without a sign it is a word. -/
theorem value_whole {m : Bool} {w : List Char} (h : natural w ≤ maxWord) :
    ∃ n, value ⟨m, w, none, none⟩ = .ok n ∧ (m = false → ∃ k, n = .natural k) := by
  have hw : wholePart 0 w = (natural w, 0) := wholePart_eq h
  simp only [value, hw]
  cases m with
  | false => exact ⟨_, rfl, fun _ => ⟨_, rfl⟩⟩
  | true =>
    simp only [Bool.not_true, Bool.false_eq_true, ↓reduceIte]
    split
    next => exact ⟨_, rfl, Bool.noConfusion⟩
    next => exact ⟨_, rfl, Bool.noConfusion⟩

/-- What is left of a short literal with a value has a value. -/
theorem CutTo.value_isOk {l l' : Literal} {n : Number} (h : CutTo l' l) (hl : l.WellFormed)
    (hs : l.Short) (hv : l.value = .ok n) : ∃ n', l'.value = .ok n' := by
  cases h with
  | whole hne hcut =>
    obtain ⟨n', hn', -⟩ := value_whole (Nat.le_trans (natural_le_of_front hcut) hs.whole_le)
    exact ⟨n', hn'⟩
  | fraction hne hcut =>
    apply Literal.value_isOk
    rw [size?_eq (show natural _ ≤ maxWord from hs.whole_le)]
    apply scaled?_isSome
    simp only [exponentValue]
    omega
  | exponent hne ht hcut =>
    rename_i m w f down e e' t
    have hword : natural w ≤ maxWord := hs.whole_le
    have hw : natural w ≠ 0 :=
      natural_ne_zero hl.whole_ne hl.whole_digits (hs.exponent_start (by simp))
    have hsize := size?_isSome rfl hv
    apply Literal.value_isOk
    rw [size?_eq hword] at hsize ⊢
    simp only [exponentValue] at hsize ⊢
    have hle := le_fractionPart (natural w) 0 (f.getD [])
    generalize fractionPart (natural w) 0 (f.getD []) = part at hsize hle ⊢
    cases down with
    | true =>
      apply scaled?_isSome
      simp only [↓reduceIte]
      omega
    | false =>
      -- a tenth of the largest exponent is far below the one that would be too large
      have hlarge := scaled?_le (by omega) hsize
      have hten := @ten_mul_natural_le e' _ ht
      simp only [Bool.false_eq_true, ↓reduceIte] at hlarge ⊢
      rw [← hcut] at hten
      apply scaled?_isSome
      omega

end Literal

end EgressWatch.Json
