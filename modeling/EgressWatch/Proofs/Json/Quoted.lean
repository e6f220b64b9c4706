import EgressWatch.Json.Record
import EgressWatch.Json.Value

/-!
# Strings in JSON text

What may stand between quotes (`Chars`), and for which string it stands (`Denotes`): characters
stand for themselves or are escaped, by a letter, by one UTF-16 unit, or by a pair of them. There
are many texts for one string and at most one string for a text. Space, which may stand around every
value, is dealt with here as well (`Blank`, `skipSpace_append`).

Two readers go over such a text. One takes the string:

> `takeQuoted_denotes`: a string is read as what its text stands for, up to its closing quote.

The other one passes over it and does not ask what it stands for, so it accepts halves of pairs that
stand for nothing (`skipQuoted_chars`). Both follow the text character by character, and an escape
is a step of its own in each (`takeQuoted_escape`, `skipQuoted_escape`).

Writing chooses one of the texts: quotes, backslashes and control characters are escaped, the latter
by a letter where there is one and else by their number (`escape?_cases`), and all others stand for
themselves. What was written stands for the string (`denotes_escaped`), and so it reads back
(`takeString_quoted`).
-/

namespace EgressWatch.Json

open EgressWatch.Text (hexDigit hexValue?)

/-! ## Space -/

/-- The text is nothing but space. -/
def Blank (cs : List Char) : Prop := ∀ c ∈ cs, isSpace c = true

theorem blank_nil : Blank [] := by
  intro c hc
  exact absurd hc List.not_mem_nil

theorem skipSpace_cons {c : Char} {cs : List Char} (h : isSpace c = false) :
    skipSpace (c :: cs) = c :: cs := by
  simp [skipSpace, List.dropWhile, h]

theorem skipSpace_append {s : List Char} (h : Blank s) (cs : List Char) :
    skipSpace (s ++ cs) = skipSpace cs :=
  List.dropWhile_append_of_pos h

/-- What is left after the space starts with none. -/
theorem skipSpace_skipSpace (cs : List Char) : skipSpace (skipSpace cs) = skipSpace cs := by
  induction cs with
  | nil => rfl
  | cons c cs ih =>
    cases hc : isSpace c with
    | true =>
      have hskip : skipSpace (c :: cs) = skipSpace cs := List.dropWhile_cons_of_pos hc
      rw [hskip, ih]
    | false => rw [skipSpace_cons hc, skipSpace_cons hc]

theorem isSpace_of_skipSpace {cs r : List Char} {c : Char} (h : skipSpace cs = c :: r) :
    isSpace c = false := by
  have hhead := List.head?_dropWhile_not isSpace cs
  rw [show cs.dropWhile isSpace = c :: r from h] at hhead
  exact hhead

/-! ## Escapes -/

/-- A hexadecimal digit reads as its value. -/
theorem hexValue?_hexDigit : ∀ n < 16, hexValue? (hexDigit n) = some n := by
  decide

/-- Four characters are at least four bytes. -/
theorem four_le_byteLength (a b c d : Char) : 4 ≤ byteLength [a, b, c, d] := by
  have ha := a.utf8Size_pos
  have hb := b.utf8Size_pos
  have hc := c.utf8Size_pos
  have hd := d.utf8Size_pos
  simp only [byteLength]
  omega

/-- Four hexadecimal digits and the number that they make. -/
inductive Unit4 : List Char → Nat → Prop
  | mk {a b c d : Char} {i j k l : Nat} (ha : hexValue? a = some i) (hb : hexValue? b = some j)
      (hc : hexValue? c = some k) (hd : hexValue? d = some l) :
      Unit4 [a, b, c, d] (((i * 16 + j) * 16 + k) * 16 + l)

theorem takeHex_unit {u : List Char} {n : Nat} (h : Unit4 u n) (rest : List Char) :
    takeHex (u ++ rest) = .ok (n, rest) := by
  cases h with
  | @mk a b c d _ _ _ _ ha hb hc hd =>
    have hlen : ¬ byteLength ((a :: b :: c :: d :: rest).take 4) < 4 :=
      Nat.not_lt.mpr (four_le_byteLength ..)
    show takeHex (a :: b :: c :: d :: rest) = _
    unfold takeHex
    rw [if_neg hlen]
    simp only [ha, hb, hc, hd]

/-- The four digits that a control character is written with. -/
theorem unit4_control {n : Nat} (h : n < 256) :
    Unit4 ['0', '0', hexDigit (n / 16), hexDigit (n % 16)] n := by
  have hzero : hexValue? '0' = some 0 := by decide
  have hunit := Unit4.mk hzero hzero (hexValue?_hexDigit (n / 16) (by omega))
    (hexValue?_hexDigit (n % 16) (by omega))
  have hsum : ((0 * 16 + 0) * 16 + n / 16) * 16 + n % 16 = n := by omega
  rwa [hsum] at hunit

/-- A unit that is no half of a pair is a character. -/
theorem takeUnits_unit {u : List Char} {n : Nat} (h : Unit4 u n) (hn : n < 0xD800 ∨ 0xDFFF < n)
    (rest : List Char) : takeUnits (u ++ rest) = .ok (Char.ofNat n, rest) := by
  unfold takeUnits
  simp only [takeHex_unit h, bind, Except.bind]
  rw [if_neg (by omega), if_pos (by omega)]

/-- A character is escaped by one letter that stands for it, or by its number in hexadecimal. -/
theorem escape?_cases {c : Char} {e : List Char} (h : escape? c = some e) :
    (∃ x, e = [x] ∧ x ≠ 'u' ∧ shortEscape? x = some c) ∨
      (c.toNat < 0x20 ∧ e = ['u', '0', '0', hexDigit (c.toNat / 16), hexDigit (c.toNat % 16)]) := by
  unfold escape? at h
  repeat' split at h
  case isFalse.isFalse.isTrue => exact absurd h (by simp)
  -- only a control character that no letter stands for is left to be written by its number
  case isFalse.isFalse.isFalse.isFalse.isFalse.isFalse.isFalse.isFalse =>
    right
    exact ⟨by omega, (Option.some.inj h).symm⟩
  all_goals
    rename_i hc
    left
    exact ⟨_, (Option.some.inj h).symm, by decide, by rw [hc]; rfl⟩

/-- An escape reads as the character that it was written for. -/
theorem takeEscape_escape {c : Char} {e : List Char} (h : escape? c = some e) (rest : List Char) :
    takeEscape (e ++ rest) = .ok (c, rest) := by
  rcases escape?_cases h with ⟨x, rfl, hu, hx⟩ | ⟨hc, rfl⟩
  · rw [List.cons_append, List.nil_append, takeEscape, if_neg hu, hx]
  · have hunits := takeUnits_unit (unit4_control (n := c.toNat) (by omega)) (.inl (by omega)) rest
    rw [Char.ofNat_toNat] at hunits
    exact hunits

/-- What is not escaped is neither a quote nor a backslash nor a control character. -/
theorem escape?_eq_none {c : Char} (h : escape? c = none) :
    c ≠ '"' ∧ c ≠ '\\' ∧ ¬ c.toNat < 0x20 := by
  unfold escape? at h
  repeat' split at h
  case isFalse.isFalse.isTrue hq hb hn => exact ⟨hq, hb, by omega⟩
  all_goals exact absurd h (by simp)

/-! ## What stands between quotes -/

/-- The text may stand between quotes. -/
inductive Chars : List Char → Prop
  | nil : Chars []
  | plain {c : Char} {cs : List Char} (hq : c ≠ '"') (hb : c ≠ '\\') (hc : ¬ c.toNat < 0x20)
      (h : Chars cs) : Chars (c :: cs)
  | letter {x c : Char} {cs : List Char} (hx : shortEscape? x = some c) (h : Chars cs) :
      Chars ('\\' :: x :: cs)
  | unit {u cs : List Char} {n : Nat} (hu : Unit4 u n) (h : Chars cs) :
      Chars ('\\' :: 'u' :: (u ++ cs))

/-- The text stands for a string if it stands between quotes. -/
inductive Denotes : List Char → List Char → Prop
  | nil : Denotes [] []
  | plain {c : Char} {cs s : List Char} (hq : c ≠ '"') (hb : c ≠ '\\') (hc : ¬ c.toNat < 0x20)
      (h : Denotes cs s) : Denotes (c :: cs) (c :: s)
  | letter {x c : Char} {cs s : List Char} (hx : shortEscape? x = some c) (h : Denotes cs s) :
      Denotes ('\\' :: x :: cs) (c :: s)
  | unit {u cs s : List Char} {n : Nat} (hu : Unit4 u n) (hn : n < 0xD800 ∨ 0xDFFF < n)
      (h : Denotes cs s) : Denotes ('\\' :: 'u' :: (u ++ cs)) (Char.ofNat n :: s)
  | pair {u v cs s : List Char} {high low : Nat} (hu : Unit4 u high) (hv : Unit4 v low)
      (hhigh : 0xD800 ≤ high ∧ high ≤ 0xDBFF) (hlow : 0xDC00 ≤ low ∧ low ≤ 0xDFFF)
      (h : Denotes cs s) :
      Denotes ('\\' :: 'u' :: (u ++ '\\' :: 'u' :: (v ++ cs)))
        (Char.ofNat ((high - 0xD800) * 0x400 + (low - 0xDC00) + 0x10000) :: s)

theorem Denotes.chars {cs s : List Char} (h : Denotes cs s) : Chars cs := by
  induction h with
  | nil => exact .nil
  | plain hq hb hc _ ih => exact .plain hq hb hc ih
  | letter hx _ ih => exact .letter hx ih
  | unit hu _ _ ih => exact .unit hu ih
  | pair hu hv _ _ _ ih => exact .unit hu (.unit hv ih)

/-- No letter that escapes is the one that announces a unit. -/
theorem shortEscape?_ne {x c : Char} (h : shortEscape? x = some c) : x ≠ 'u' := by
  have hu : shortEscape? 'u' = none := by decide
  rintro rfl
  exact absurd (hu.symm.trans h) (by simp)

theorem takeQuoted_escape {done cs rest : List Char} {c : Char}
    (h : takeEscape cs = .ok (c, rest)) :
    takeQuoted done ('\\' :: cs) = takeQuoted (c :: done) rest := by
  rw [takeQuoted, if_neg (by decide), if_pos rfl]
  split
  next hf => exact absurd (h.symm.trans hf) (by simp)
  next hf =>
    cases h.symm.trans hf
    rfl

theorem skipQuoted_escape {cs rest : List Char} (h : skipEscape cs = .ok rest) :
    skipQuoted ('\\' :: cs) = skipQuoted rest := by
  rw [skipQuoted, if_neg (by decide), if_pos rfl]
  split
  next hf => exact absurd (h.symm.trans hf) (by simp)
  next hf =>
    cases h.symm.trans hf
    rfl

/-- A string is read as what it stands for, up to its closing quote, after what was read of it
before. -/
theorem takeQuoted_denotes {cs s : List Char} (h : Denotes cs s) (done rest : List Char) :
    takeQuoted done (cs ++ '"' :: rest) = .ok (done.reverse ++ s, rest) := by
  have hshift (c : Char) (done s : List Char) :
      (c :: done).reverse ++ s = done.reverse ++ c :: s := by simp
  induction h generalizing done with
  | nil => rw [List.nil_append, takeQuoted, if_pos rfl, List.append_nil]
  | plain hq hb hc _ ih =>
    rw [List.cons_append, takeQuoted, if_neg hq, if_neg hb, if_neg hc, ih, hshift]
  | @letter x c cs s hx _ ih =>
    have hescape : takeEscape (x :: (cs ++ '"' :: rest)) = .ok (c, cs ++ '"' :: rest) := by
      rw [takeEscape, if_neg (shortEscape?_ne hx), hx]
    rw [List.cons_append, List.cons_append, takeQuoted_escape hescape, ih, hshift]
  | @unit u cs s n hu hn _ ih =>
    have hescape : takeEscape ('u' :: (u ++ (cs ++ '"' :: rest))) =
        .ok (Char.ofNat n, cs ++ '"' :: rest) := takeUnits_unit hu hn _
    rw [List.cons_append, List.cons_append, List.append_assoc, takeQuoted_escape hescape, ih,
      hshift]
  | @pair u v cs s high low hu hv hhigh hlow _ ih =>
    have hword : takeWord ['\\', 'u'] ('\\' :: 'u' :: (v ++ (cs ++ '"' :: rest))) =
        .ok (v ++ (cs ++ '"' :: rest)) := takeWord_append ['\\', 'u'] _
    have hescape : takeEscape ('u' :: (u ++ '\\' :: 'u' :: (v ++ (cs ++ '"' :: rest)))) =
        .ok (Char.ofNat ((high - 0xD800) * 0x400 + (low - 0xDC00) + 0x10000),
          cs ++ '"' :: rest) := by
      rw [takeEscape, if_pos rfl, takeUnits]
      simp only [takeHex_unit hu, takeHex_unit hv, hword, bind, Except.bind]
      rw [if_neg (by omega), if_neg (by omega), if_pos hlow]
    rw [List.cons_append, List.cons_append, List.append_assoc, List.cons_append, List.cons_append,
      List.append_assoc, takeQuoted_escape hescape, ih, hshift]

/-- What may stand between quotes can be passed over. -/
theorem skipQuoted_chars {cs : List Char} (h : Chars cs) (rest : List Char) :
    skipQuoted (cs ++ '"' :: rest) = .ok rest := by
  induction h with
  | nil => rw [List.nil_append, skipQuoted, if_pos rfl]
  | plain hq hb hc _ ih =>
    rw [List.cons_append, skipQuoted, if_neg hq, if_neg hb, if_neg hc, ih]
  | @letter x c cs hx _ ih =>
    have hescape : skipEscape (x :: (cs ++ '"' :: rest)) = .ok (cs ++ '"' :: rest) := by
      rw [skipEscape, if_neg (shortEscape?_ne hx), hx]
      rfl
    rw [List.cons_append, List.cons_append, skipQuoted_escape hescape, ih]
  | @unit u cs n hu _ ih =>
    have hescape : skipEscape ('u' :: (u ++ (cs ++ '"' :: rest))) = .ok (cs ++ '"' :: rest) := by
      rw [skipEscape, if_pos rfl, takeHex_unit hu]
      rfl
    rw [List.cons_append, List.cons_append, List.append_assoc, skipQuoted_escape hescape, ih]

/-! ## Written strings -/

theorem escaped_cons_plain {c : Char} (h : escape? c = none) (cs rest : List Char) :
    escaped (c :: cs) ++ rest = c :: (escaped cs ++ rest) := by
  rw [escaped, h]
  rfl

theorem escaped_cons_escape {c : Char} {e : List Char} (h : escape? c = some e)
    (cs rest : List Char) : escaped (c :: cs) ++ rest = '\\' :: (e ++ (escaped cs ++ rest)) := by
  rw [escaped, h]
  simp

/-- A written string stands for the string. -/
theorem denotes_escaped (cs : List Char) : Denotes (escaped cs) cs := by
  induction cs with
  | nil => exact .nil
  | cons c cs ih =>
    rw [← List.append_nil (escaped (c :: cs))]
    cases he : escape? c with
    | none =>
      obtain ⟨hq, hb, hl⟩ := escape?_eq_none he
      rw [escaped_cons_plain he, List.append_nil]
      exact .plain hq hb hl ih
    | some e =>
      rw [escaped_cons_escape he, List.append_nil]
      rcases escape?_cases he with ⟨x, rfl, -, hx⟩ | ⟨hc, rfl⟩
      · exact .letter hx ih
      · have hunit := Denotes.unit (unit4_control (n := c.toNat) (by omega)) (.inl (by omega)) ih
        rw [Char.ofNat_toNat] at hunit
        exact hunit

theorem quoted_append (cs rest : List Char) :
    quoted cs ++ rest = '"' :: (escaped cs ++ '"' :: rest) := by
  simp [quoted]

/-- A string is read as what its text stands for, whatever follows. -/
theorem takeString_denotes {s : String} {cs : List Char} (h : Denotes cs s.toList)
    (rest : List Char) : takeString ('"' :: (cs ++ ['"']) ++ rest) = .ok (s, rest) := by
  rw [List.cons_append, List.append_assoc, takeString, skipSpace_cons (by decide)]
  simp only [List.cons_append, List.nil_append, takeQuoted_denotes h, bind, Except.bind,
    List.reverse_nil, String.ofList_toList]

theorem takeString_quoted (s : String) (rest : List Char) :
    takeString (quoted s.toList ++ rest) = .ok (s, rest) :=
  takeString_denotes (denotes_escaped s.toList) rest

end EgressWatch.Json
