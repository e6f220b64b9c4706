import EgressWatch.Proofs.Time.Stamp
import EgressWatch.Time.Window
import Mathlib.Data.List.Basic
import Mathlib.Data.List.TakeWhile

/-!
# Which texts are windows

A text is a window exactly if between its blanks stand an optional plus sign, some digits and the
letter of a unit, and neither the number nor the seconds it comes to are too large for a word.
`Says` writes this down as a grammar, with the parts named and no reader in it:

> `windows_exact`: what a text is read as is what it says, and a text that says nothing is no
> window.

The parts are those that the reader takes: blanks are cut (`trim_window`), the last character is the
unit (`unitSeconds?_eq_some_iff`), and what is before it has to be a word (`readWord_eq_some_iff`).
Reading a word stops as soon as the number is too large, so it has to be shown that more digits
never make it smaller (`readDigits_eq_ok_iff`, by induction on the digits). Both directions then
take a text apart at the same places: what is read stands in the text (`says_of_window?`), and what
stands there is read (`Says.window?_eq`).
-/

namespace EgressWatch.Text

/-! ## Blanks at the ends -/

/-- Blanks are cut from a text up to the first and the last of its other characters. -/
theorem trim_append {before core after : List Char} (hb : ∀ c ∈ before, isBlank c = true)
    (ha : ∀ c ∈ after, isBlank c = true) (hfirst : ∀ c ∈ core.head?, isBlank c = false)
    (hlast : ∀ c ∈ core.getLast?, isBlank c = false) : trim (before ++ core ++ after) = core := by
  cases core with
  | nil =>
    have hall : ∀ c ∈ before ++ after, isBlank c = true := fun c hc =>
      (List.mem_append.mp hc).elim (hb c) (ha c)
    rw [List.append_nil, trim, trimStart, List.dropWhile_eq_nil_iff.mpr hall]
    rfl
  | cons c core =>
    have hstart : trimStart (before ++ (c :: core) ++ after) = (c :: core) ++ after := by
      rw [List.append_assoc, trimStart_append hb, List.cons_append]
      exact trimStart_cons (hfirst c rfl)
    have hend : ∀ x ∈ ((c :: core).reverse).head?, isBlank x = false := by
      rw [List.head?_reverse]
      exact hlast
    rw [trim, hstart, trimEnd, List.reverse_append,
      List.dropWhile_append_of_pos (by simpa using ha)]
    cases hrev : (c :: core).reverse with
    | nil => exact absurd hrev (by simp)
    | cons x xs =>
      rw [hrev] at hend
      rw [List.dropWhile_cons_of_neg (by simp [hend x rfl]), ← hrev, List.reverse_reverse]

/-- What is cut from a text is blank. -/
theorem exists_append_trim (cs : List Char) : ∃ before after, cs = before ++ trim cs ++ after ∧
    (∀ c ∈ before, isBlank c = true) ∧ ∀ c ∈ after, isBlank c = true := by
  refine ⟨cs.takeWhile isBlank, ((trimStart cs).reverse.takeWhile isBlank).reverse, ?_,
    fun c hc => List.mem_takeWhile_imp hc,
    fun c hc => List.mem_takeWhile_imp (List.mem_reverse.mp hc)⟩
  have hend : trim cs ++ ((trimStart cs).reverse.takeWhile isBlank).reverse = trimStart cs := by
    rw [trim, trimEnd, ← List.reverse_append, List.takeWhile_append_dropWhile, List.reverse_reverse]
  rw [List.append_assoc, hend]
  exact List.takeWhile_append_dropWhile.symm

/-! ## Words -/

/-- Going on with digits reaches the number that all of them stand for, if it is not too large. -/
theorem readDigits_eq_ok_iff {greatest n m : Nat} {cs : List Char} (hn : n ≤ greatest) :
    readDigits greatest n cs = .ok m ↔
      (∀ c ∈ cs, c.isDigit = true) ∧ Nat.ofDigitChars 10 cs n = m ∧ m ≤ greatest := by
  induction cs generalizing n with
  | nil =>
    rw [readDigits, Except.ok.injEq, Nat.ofDigitChars_nil]
    constructor
    · rintro rfl
      exact ⟨by simp, rfl, hn⟩
    · exact fun h => h.2.1
  | cons c cs ih =>
    have hstep : n * 10 + (c.toNat - 48) = 10 * n + (c.toNat - '0'.toNat) := by
      rw [Nat.mul_comm]
      rfl
    rw [readDigits, hstep, Nat.ofDigitChars_cons]
    cases hc : c.isDigit with
    | false =>
      refine ⟨fun h => absurd h (by simp), fun h => ?_⟩
      exact absurd (h.1 c (by simp)) (by simp [hc])
    | true =>
      rw [if_neg (by simp)]
      by_cases hlarge : greatest < 10 * n + (c.toNat - '0'.toNat)
      · rw [if_pos hlarge]
        refine ⟨fun h => absurd h (by simp), fun ⟨_, hm, hle⟩ => ?_⟩
        have hge := le_ofDigitChars cs (10 * n + (c.toNat - '0'.toNat))
        omega
      · rw [if_neg hlarge, ih (by omega)]
        simp [hc]

/-- A number is written with at least one digit and perhaps a plus sign. -/
def IsNumeral (cs ds : List Char) : Prop :=
  (cs = ds ∨ cs = '+' :: ds) ∧ ds ≠ [] ∧ ∀ c ∈ ds, c.isDigit = true

theorem readNatural_eq_ok_iff {greatest m : Nat} {cs : List Char} :
    readNatural greatest cs = .ok m ↔ ∃ ds, IsNumeral cs ds ∧ natural ds = m ∧ m ≤ greatest := by
  have hdigits : ∀ {ds : List Char}, readDigits greatest 0 ds = .ok m ↔
      (∀ c ∈ ds, c.isDigit = true) ∧ natural ds = m ∧ m ≤ greatest :=
    readDigits_eq_ok_iff (Nat.zero_le _)
  unfold readNatural
  split
  next =>
    refine ⟨fun h => absurd h (by simp), ?_⟩
    rintro ⟨ds, ⟨rfl | h, hne, -⟩, -⟩
    · exact absurd rfl hne
    · exact absurd h (by simp)
  next =>
    refine ⟨fun h => absurd h (by simp), ?_⟩
    rintro ⟨ds, ⟨rfl | h, hne, hd⟩, -⟩
    · exact absurd (hd '+' (by simp)) (by decide)
    · exact absurd (List.cons.inj h).2.symm hne
  next c cs =>
    rw [hdigits]
    constructor
    · rintro ⟨hd, hm⟩
      exact ⟨c :: cs, ⟨.inr rfl, by simp, hd⟩, hm⟩
    · rintro ⟨ds, ⟨rfl | h, -, hd⟩, hm⟩
      · exact absurd (hd '+' (by simp)) (by decide)
      · rw [(List.cons.inj h).2]
        exact ⟨hd, hm⟩
  next c cs hplus hplus' =>
    rw [hdigits]
    constructor
    · rintro ⟨hd, hm⟩
      exact ⟨c :: cs, ⟨.inl rfl, by simp, hd⟩, hm⟩
    · rintro ⟨ds, ⟨rfl | h, hne, hd⟩, hm⟩
      · exact ⟨hd, hm⟩
      · -- a plus sign with something after it was looked for before
        obtain ⟨rfl, rfl⟩ := List.cons.inj h
        cases cs with
        | nil => exact absurd rfl hne
        | cons d ds => exact absurd rfl (hplus' d ds rfl)

/-- Words are the numbers that 64 bits hold. -/
theorem readWord_eq_some_iff {n : UInt64} {cs : List Char} :
    (readWord cs).toOption = some n ↔ ∃ ds, IsNumeral cs ds ∧ natural ds = n.toNat := by
  rw [readWord]
  constructor
  · intro h
    cases hread : readNatural 18446744073709551615 cs with
    | error fault =>
      rw [hread] at h
      exact absurd h nofun
    | ok m =>
      rw [hread] at h
      obtain ⟨ds, hds, hm, hle⟩ := readNatural_eq_ok_iff.mp hread
      obtain rfl : UInt64.ofNat m = n := Option.some.inj h
      exact ⟨ds, hds, by rw [hm, UInt64.toNat_ofNat_of_lt' (Nat.lt_succ_of_le hle)]⟩
  · rintro ⟨ds, hds, hn⟩
    rw [readNatural_eq_ok_iff.mpr ⟨ds, hds, hn, Nat.le_of_lt_succ n.toNat_lt⟩]
    exact congrArg some UInt64.ofNat_toNat

end EgressWatch.Text

namespace EgressWatch.Time

open Text

/-- The letter of a unit and its seconds. -/
def IsUnit (unit : Char) (factor : Nat) : Prop :=
  (unit = 'h' ∧ factor = 3600) ∨ (unit = 'd' ∧ factor = 86400)

theorem unitSeconds?_eq_some_iff {unit : Char} {factor : Nat} :
    unitSeconds? unit = some factor ↔ IsUnit unit factor := by
  unfold unitSeconds? IsUnit
  split
  next => simp [eq_comm]
  next => simp [eq_comm]
  next hh hd =>
    refine ⟨fun h => absurd h (by simp), ?_⟩
    rintro (⟨rfl, -⟩ | ⟨rfl, -⟩)
    · exact absurd rfl hh
    · exact absurd rfl hd

/-- The text says a span of time: between blanks stand a number and a unit, and neither the number
nor the seconds that they come to are too large for a word. -/
def Says (s : String) (d : Span) : Prop :=
  ∃ before numeral ds unit factor after,
    s.toList = before ++ (numeral ++ [unit]) ++ after ∧
    (∀ c ∈ before, isBlank c = true) ∧ (∀ c ∈ after, isBlank c = true) ∧
    IsNumeral numeral ds ∧ IsUnit unit factor ∧
    natural ds ≤ 18446744073709551615 ∧ natural ds * factor ≤ 18446744073709551615 ∧
    d = .ofSeconds (natural ds * factor)

/-- A number and a unit start and end with characters that are not blank. -/
theorem trim_window {before numeral ds after : List Char} {unit : Char} {factor : Nat}
    (hb : ∀ c ∈ before, isBlank c = true) (ha : ∀ c ∈ after, isBlank c = true)
    (hn : IsNumeral numeral ds) (hu : IsUnit unit factor) :
    trim (before ++ (numeral ++ [unit]) ++ after) = numeral ++ [unit] := by
  obtain ⟨hnumeral, hne, hd⟩ := hn
  refine trim_append hb ha (fun c hc => ?_) fun c hc => ?_
  · cases ds with
    | nil => exact absurd rfl hne
    | cons d ds =>
      rcases hnumeral with rfl | rfl
      · obtain rfl : d = c := by simpa using hc
        exact Instant.isBlank_of_isDigit (hd d (by simp))
      · obtain rfl : '+' = c := by simpa using hc
        decide
  · obtain rfl : unit = c := by simpa using hc
    rcases hu with ⟨rfl, -⟩ | ⟨rfl, -⟩
    · decide
    · decide

section Reading

variable {s : String} {d : Span}

/-- What is read stands in the text. -/
theorem says_of_window? (h : window? s = some d) : Says s d := by
  simp only [window?, Option.bind_eq_bind, Option.bind_eq_some_iff] at h
  obtain ⟨unit, hlast, n, hword, factor, hunit, hspan⟩ := h
  obtain ⟨before, after, hs, hb, ha⟩ := exists_append_trim s.toList
  obtain ⟨ds, hds, hn⟩ := readWord_eq_some_iff.mp hword
  -- the last character is the unit, and what is before it the number
  rw [← List.dropLast_append_getLast? unit hlast] at hs
  split at hspan
  next hle =>
    refine ⟨before, _, ds, unit, factor, after, hs, hb, ha, hds,
      unitSeconds?_eq_some_iff.mp hunit, ?_, ?_, ?_⟩
    · rw [hn]
      exact Nat.le_of_lt_succ n.toNat_lt
    · rwa [hn]
    · rw [hn]
      exact (Option.some.inj hspan).symm
  next => exact absurd hspan (by simp)

/-- What the text says is read. -/
theorem Says.window?_eq (h : Says s d) : window? s = some d := by
  obtain ⟨before, numeral, ds, unit, factor, after, hs, hb, ha, hds, hunit, hle, hle', rfl⟩ := h
  have hn : (UInt64.ofNat (natural ds)).toNat = natural ds :=
    UInt64.toNat_ofNat_of_lt' (Nat.lt_succ_of_le hle)
  have hword : (readWord numeral).toOption = some (UInt64.ofNat (natural ds)) :=
    readWord_eq_some_iff.mpr ⟨ds, hds, hn.symm⟩
  simp only [window?, hs, trim_window hb ha hds hunit, List.getLast?_concat, List.dropLast_concat,
    hword, unitSeconds?_eq_some_iff.mpr hunit, hn, if_pos hle', Option.bind_eq_bind,
    Option.bind_some]

end Reading

/-- A text is a window exactly if it says a span of time, and then it is that span. All others are
no windows, whatever they end in. -/
theorem windows_exact (s : String) :
    (∀ d, window? s = some d ↔ Says s d) ∧ (window? s = none ↔ ∀ d, ¬ Says s d) := by
  have hsome : ∀ d, window? s = some d ↔ Says s d := fun d => ⟨says_of_window?, Says.window?_eq⟩
  refine ⟨hsome, ?_⟩
  rw [Option.eq_none_iff_forall_ne_some]
  exact forall_congr' fun d => not_congr (hsome d)

/-- Blanks of any script do not count, nor do zeros in front and a plus sign. -/
example : window? "\u2003+0024h\n" = some (.ofHours 24) := by decide +kernel

end EgressWatch.Time
