import EgressWatch.Json.Fault
import EgressWatch.Text.Digits

/-!
# JSON strings

A string stands between quotes. Written (`quoted`), a quote, a backslash and the control characters
below the blank are escaped and all else stands for itself. Read, the usual escapes and UTF-16
escapes are understood, a character beyond the first plane being a pair of them; a raw control
character is a fault, and so is half a pair.

`takeQuoted` reads a string and `skipQuoted` passes over one. Passing over asks less: escapes must
have their form, but halves of pairs may stand alone. Either takes the text from the front and hands
back what is behind the closing quote; the lemmas about lengths say that it is less than there was,
which is what the recursion of the readers rests on.
-/

namespace EgressWatch.Json

open Text (hexDigit hexValue?)

/-- The bytes that a text takes in UTF-8. -/
def byteLength : List Char → Nat
  | [] => 0
  | c :: cs => c.utf8Size + byteLength cs

/-- The number of four hexadecimal digits off the front. Less than four bytes of text are too few
whatever they are. -/
def takeHex (cs : List Char) : Except Fault (Nat × List Char) :=
  if byteLength (cs.take 4) < 4 then .error .truncated
  else match cs with
    | a :: b :: c :: d :: rest =>
      match hexValue? a, hexValue? b, hexValue? c, hexValue? d with
      | some a, some b, some c, some d => .ok (((a * 16 + b) * 16 + c) * 16 + d, rest)
      | _, _, _, _ => .error .malformed
    | _ => .error .malformed

/-- A UTF-16 escape off the front, its first `\u` taken already: one unit, or a pair that is one
character. -/
def takeUnits (cs : List Char) : Except Fault (Char × List Char) := do
  let (high, cs) ← takeHex cs
  if 0xDC00 ≤ high ∧ high ≤ 0xDFFF then .error .malformed
  else if high < 0xD800 ∨ 0xDBFF < high then .ok (Char.ofNat high, cs)
  else
    let cs ← takeWord ['\\', 'u'] cs
    let (low, cs) ← takeHex cs
    if 0xDC00 ≤ low ∧ low ≤ 0xDFFF then
      .ok (Char.ofNat ((high - 0xD800) * 0x400 + (low - 0xDC00) + 0x10000), cs)
    else .error .malformed

/-- The character that an escape of one letter stands for. -/
def shortEscape? : Char → Option Char
  | '"' => some '"'
  | '\\' => some '\\'
  | '/' => some '/'
  | 'b' => some '\x08'
  | 'f' => some '\x0c'
  | 'n' => some '\n'
  | 'r' => some '\r'
  | 't' => some '\t'
  | _ => none

/-- An escape off the front, its backslash taken already. -/
def takeEscape : List Char → Except Fault (Char × List Char)
  | [] => .error .truncated
  | c :: cs =>
    if c = 'u' then takeUnits cs
    else match shortEscape? c with
      | some e => .ok (e, cs)
      | none => .error .malformed

/-- Passes over an escape, its backslash taken already. -/
def skipEscape : List Char → Except Fault (List Char)
  | [] => .error .truncated
  | c :: cs =>
    if c = 'u' then (takeHex cs).map (·.2)
    else if (shortEscape? c).isSome then .ok cs else .error .malformed

/-! ## Progress -/

theorem takeWord_length {w cs rest : List Char} (h : takeWord w cs = .ok rest) :
    rest.length ≤ cs.length := by
  induction w generalizing cs with
  | nil => cases h; exact Nat.le_refl _
  | cons c w ih =>
    cases cs with
    | nil => simp [takeWord] at h
    | cons x cs =>
      simp only [takeWord] at h
      split at h
      · exact Nat.le_succ_of_le (ih h)
      · simp at h

theorem takeHex_length {cs rest : List Char} {n : Nat} (h : takeHex cs = .ok (n, rest)) :
    rest.length < cs.length := by
  unfold takeHex at h
  split at h
  · simp at h
  · split at h
    · split at h
      · simp only [Except.ok.injEq, Prod.mk.injEq] at h
        simp only [← h.2, List.length_cons]; omega
      · simp at h
    · simp at h

theorem takeUnits_length {cs rest : List Char} {c : Char} (h : takeUnits cs = .ok (c, rest)) :
    rest.length < cs.length := by
  unfold takeUnits at h
  cases h1 : takeHex cs with
  | error f => simp [h1, bind, Except.bind] at h
  | ok p =>
    obtain ⟨high, r⟩ := p
    have l1 := takeHex_length h1
    simp only [h1, bind, Except.bind] at h
    split at h
    · simp at h
    · split at h
      · simp only [Except.ok.injEq, Prod.mk.injEq] at h; rw [← h.2]; exact l1
      · cases h2 : takeWord ['\\', 'u'] r with
        | error f => simp [h2] at h
        | ok r2 =>
          have l2 := takeWord_length h2
          simp only [h2] at h
          cases h3 : takeHex r2 with
          | error f => simp [h3] at h
          | ok p =>
            obtain ⟨low, r3⟩ := p
            have l3 := takeHex_length h3
            simp only [h3] at h
            split at h
            · simp only [Except.ok.injEq, Prod.mk.injEq] at h; rw [← h.2]; omega
            · simp at h

theorem takeEscape_length {cs rest : List Char} {c : Char} (h : takeEscape cs = .ok (c, rest)) :
    rest.length < cs.length := by
  cases cs with
  | nil => simp [takeEscape] at h
  | cons x cs =>
    simp only [takeEscape] at h
    split at h
    · exact Nat.lt_succ_of_lt (takeUnits_length h)
    · split at h
      · simp only [Except.ok.injEq, Prod.mk.injEq] at h; rw [← h.2]; exact Nat.lt_succ_self _
      · simp at h

theorem skipEscape_length {cs rest : List Char} (h : skipEscape cs = .ok rest) :
    rest.length < cs.length := by
  cases cs with
  | nil => simp [skipEscape] at h
  | cons x cs =>
    simp only [skipEscape] at h
    split at h
    · cases h1 : takeHex cs with
      | error f => simp [h1, Except.map] at h
      | ok p =>
        have := takeHex_length h1
        simp only [h1, Except.map, Except.ok.injEq] at h
        simp only [← h, List.length_cons]; omega
    · split at h
      · simp only [Except.ok.injEq] at h; rw [← h]; exact Nat.lt_succ_self _
      · simp at h

/-! ## Whole strings -/

/-- The rest of a string off the front, up to and with its closing quote. `done` holds the
characters before it, last first. -/
def takeQuoted (done : List Char) : List Char → Except Fault (List Char × List Char)
  | [] => .error .truncated
  | c :: cs =>
    if c = '"' then .ok (done.reverse, cs)
    else if c = '\\' then
      match _h : takeEscape cs with
      | .error fault => .error fault
      | .ok (e, rest) => takeQuoted (e :: done) rest
    else if c.toNat < 0x20 then .error .malformed
    else takeQuoted (c :: done) cs
termination_by cs => cs.length
decreasing_by
  · have := takeEscape_length _h; simp only [List.length_cons]; omega
  · simp

/-- Passes over the rest of a string, up to and with its closing quote. -/
def skipQuoted : List Char → Except Fault (List Char)
  | [] => .error .truncated
  | c :: cs =>
    if c = '"' then .ok cs
    else if c = '\\' then
      match _h : skipEscape cs with
      | .error fault => .error fault
      | .ok rest => skipQuoted rest
    else if c.toNat < 0x20 then .error .malformed
    else skipQuoted cs
termination_by cs => cs.length
decreasing_by
  · have := skipEscape_length _h; simp only [List.length_cons]; omega
  · simp

theorem skipQuoted_length {cs rest : List Char} (h : skipQuoted cs = .ok rest) :
    rest.length < cs.length := by
  fun_induction skipQuoted cs with
  | case1 => simp at h
  | case2 => simp only [Except.ok.injEq] at h; rw [← h]; exact Nat.lt_succ_self _
  | case3 => simp at h
  | case4 cs rest' taken _ ih =>
    have := skipEscape_length taken
    have := ih h
    simp only [List.length_cons]; omega
  | case5 => simp at h
  | case6 _ _ _ _ _ ih => exact Nat.lt_succ_of_lt (ih h)

/-! ## Writing -/

/-- The letters after the backslash that stand for a character, if it has to be escaped. -/
def escape? (c : Char) : Option (List Char) :=
  if c = '"' then some ['"']
  else if c = '\\' then some ['\\']
  else if 0x20 ≤ c.toNat then none
  else if c = '\x08' then some ['b']
  else if c = '\x0c' then some ['f']
  else if c = '\n' then some ['n']
  else if c = '\r' then some ['r']
  else if c = '\t' then some ['t']
  else some ['u', '0', '0', hexDigit (c.toNat / 16), hexDigit (c.toNat % 16)]

/-- The characters of a string with its escapes, without quotes. -/
def escaped : List Char → List Char
  | [] => []
  | c :: cs =>
    match escape? c with
    | none => c :: escaped cs
    | some e => '\\' :: e ++ escaped cs

/-- A string between quotes. -/
def quoted (cs : List Char) : List Char := '"' :: escaped cs ++ ['"']

end EgressWatch.Json
