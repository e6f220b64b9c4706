/-!
# Punycode

Text in the letters, digits and hyphens that names of hosts are made of: the characters that are
such already come first, and after a hyphen follow the places of the others. Places are counted
through all texts in the order of code points and written as numbers whose digits shift their weight
as the text goes on. The measures that end the loops are the number that is left to write and the
list of characters that are left to place.
-/

namespace EgressWatch.Text.Punycode

/-- The character for a digit below 36. -/
def digit (n : Nat) : Char := if n < 26 then Char.ofNat (97 + n) else Char.ofNat (22 + n)

/-- From this digit on another digit follows, at a place in the number. -/
def threshold (place bias : Nat) : Nat :=
  if place ≤ bias then 1 else if bias + 26 ≤ place then 26 else place - bias

theorem threshold_bounds (place bias : Nat) :
    1 ≤ threshold place bias ∧ threshold place bias ≤ 26 := by
  unfold threshold
  split
  · omega
  · split <;> omega

/-- Halves the weight of a number until it is small. -/
def damp (n place : Nat) : Nat × Nat :=
  if 455 < n then damp (n / 35) (place + 36) else (n, place)
termination_by n
decreasing_by omega

/-- The bias after a number was written, `count` characters being placed by then. -/
def adapt (n count : Nat) (first : Bool) : Nat :=
  let n := if first then n / 700 else n / 2
  let (n, place) := damp (n + n / count) 0
  place + 36 * n / (n + 38)

/-- A number with shifting weights. -/
def number (bias place n : Nat) : List Char :=
  let t := threshold place bias
  if n < t then [digit n]
  else digit (t + (n - t) % (36 - t)) :: number bias (place + 36) ((n - t) / (36 - t))
termination_by n
decreasing_by
  have := threshold_bounds place bias
  exact Nat.lt_of_le_of_lt (Nat.div_le_self _ _) (by omega)

/-- How far the writing has come. -/
structure Progress where
  out : List Char
  delta : Nat
  bias : Nat
  /-- The characters placed so far. -/
  count : Nat

/-- Passes one character of the text while those with the number `n` are placed, of which `start`
had been there at the start. -/
def pass (start n : Nat) (p : Progress) (c : Char) : Progress :=
  if c.toNat < n then { p with delta := p.delta + 1 }
  else if c.toNat = n then
    { out := p.out ++ number p.bias 36 p.delta, delta := 0
      bias := adapt p.delta (p.count + 1) (p.count == start), count := p.count + 1 }
  else p

/-- Places the characters with the numbers given, all from `least` on. -/
def place (cs : List Char) (start : Nat) : List Nat → Nat → Progress → Progress
  | [], _, p => p
  | n :: rest, least, p =>
    let p := { p with delta := p.delta + (n - least) * (p.count + 1) }
    let p := cs.foldl (pass start n) p
    place cs start rest (n + 1) { p with delta := p.delta + 1 }

/-- Numbers in order, each once. -/
def ordered (ns : List Nat) : List Nat := ns.eraseDups.mergeSort

/-- Writes a text. The characters of ASCII in it come first, and a hyphen after them if there are
any. -/
def encode (cs : List Char) : List Char :=
  let plain := cs.filter (·.toNat < 0x80)
  let others := ordered ((cs.filter (0x80 ≤ ·.toNat)).map Char.toNat)
  let p := place cs plain.length others 0x80 ⟨[], 0, 72, plain.length⟩
  (if plain.isEmpty then [] else plain ++ ['-']) ++ p.out

/-! ## Reading -/

/-- The value of a digit. -/
def digitValue? (c : Char) : Option Nat :=
  if 'a' ≤ c ∧ c ≤ 'z' then some (c.toNat - 97)
  else if '0' ≤ c ∧ c ≤ '9' then some (c.toNat - 22)
  else none

/-- A number with shifting weights off the front, added to `sum`. -/
def takeNumber (bias place weight sum : Nat) : List Char → Option (Nat × List Char)
  | [] => none
  | c :: cs => do
    let d ← digitValue? c
    let sum := sum + d * weight
    let t := threshold place bias
    if d < t then some (sum, cs) else takeNumber bias (place + 36) (weight * (36 - t)) sum cs

theorem takeNumber_length {bias place weight sum n : Nat} {cs rest : List Char}
    (h : takeNumber bias place weight sum cs = some (n, rest)) : rest.length < cs.length := by
  induction cs generalizing place weight sum with
  | nil => simp [takeNumber] at h
  | cons c cs ih =>
    unfold takeNumber at h
    cases hd : digitValue? c with
    | none => simp [hd] at h
    | some d =>
      simp only [hd, Option.bind_eq_bind, Option.bind_some] at h
      split at h
      · cases h
        simp
      · exact Nat.lt_succ_of_lt (ih h)

/-- Puts characters into a text by their places, from the place and the number of the one before. No
number may be beyond the last character or half of a pair. -/
def unplace (out : List Char) (n place bias : Nat) (first : Bool) (cs : List Char) :
    Option (List Char) :=
  if cs.isEmpty then some out
  else
    match h : takeNumber bias 36 1 0 cs with
    | none => none
    | some (delta, rest) =>
      let count := out.length + 1
      let n := n + (place + delta) / count
      let place := (place + delta) % count
      if Nat.isValidChar n then
        unplace (out.take place ++ Char.ofNat n :: out.drop place) n (place + 1)
          (adapt delta count first) false rest
      else none
termination_by cs.length
decreasing_by exact takeNumber_length h

/-- Reads a text. What stands before the last hyphen, if it is not the first character, is in ASCII
as it is. -/
def decode (cs : List Char) : Option (List Char) :=
  match cs.reverse.span (· != '-') with
  | (places, '-' :: c :: plain) => unplace (c :: plain).reverse 0x80 0 72 true places.reverse
  | _ => unplace [] 0x80 0 72 true cs

end EgressWatch.Text.Punycode
