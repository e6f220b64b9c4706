/-!
# UTF-8

Text as bytes (`encode`) and bytes as text. Not all bytes are text. `decodeMarking` puts a mark in
the place of what is none: one for each start of a character that breaks off and one for each byte
that starts none. The mark of `decode` is the replacement character U+FFFD. `decode?` refuses such
bytes.

A first byte tells how many bytes follow and within which bounds the next one is (`Lead`), so that
no character has two forms, and halves of pairs and numbers beyond the last character have none.
-/

namespace EgressWatch.Text.Utf8

/-- The bytes of a text. -/
def encode (cs : List Char) : List UInt8 := cs.flatMap String.utf8EncodeChar

/-- How a character goes on after its first byte. -/
structure Lead where
  /-- How many bytes follow. -/
  more : Nat
  /-- The least that the next byte may be. -/
  least : Nat
  /-- The greatest that the next byte may be. -/
  greatest : Nat
  /-- The bits that the first byte contributes. -/
  bits : Nat

/-- What a first byte above the ASCII range announces, if it starts a character. The bounds on the
second byte keep out forms that are longer than needed, halves of pairs and what lies past the last
character. -/
def lead? (b : Nat) : Option Lead :=
  if 0xC2 ≤ b ∧ b ≤ 0xDF then some ⟨1, 0x80, 0xBF, b - 0xC0⟩
  else if b = 0xE0 then some ⟨2, 0xA0, 0xBF, 0⟩
  else if b = 0xED then some ⟨2, 0x80, 0x9F, 13⟩
  else if 0xE1 ≤ b ∧ b ≤ 0xEF then some ⟨2, 0x80, 0xBF, b - 0xE0⟩
  else if b = 0xF0 then some ⟨3, 0x90, 0xBF, 0⟩
  else if 0xF1 ≤ b ∧ b ≤ 0xF3 then some ⟨3, 0x80, 0xBF, b - 0xF0⟩
  else if b = 0xF4 then some ⟨3, 0x80, 0x8F, 4⟩
  else none

/-- The bytes that follow a first byte off the front: the number of the character, or nothing where
it breaks off. -/
def takeMore : Nat → Nat → Nat → Nat → List UInt8 → Option Nat × List UInt8
  | 0, _, _, bits, bs => (some bits, bs)
  | _ + 1, _, _, _, [] => (none, [])
  | more + 1, least, greatest, bits, b :: bs =>
    if least ≤ b.toNat ∧ b.toNat ≤ greatest then
      takeMore more 0x80 0xBF (bits * 64 + (b.toNat - 0x80)) bs
    else (none, b :: bs)

theorem takeMore_length (more least greatest bits : Nat) (bs : List UInt8) :
    (takeMore more least greatest bits bs).2.length ≤ bs.length := by
  induction more generalizing least greatest bits bs with
  | zero => simp [takeMore]
  | succ more ih =>
    cases bs with
    | nil => simp [takeMore]
    | cons b bs =>
      unfold takeMore
      split
      · exact Nat.le_succ_of_le (ih ..)
      · exact Nat.le_refl _

/-- One character off the front: nothing stands for bytes that are none. -/
def takeChar (b : UInt8) (bs : List UInt8) : Option Char × List UInt8 :=
  if b.toNat < 0x80 then (some (Char.ofNat b.toNat), bs)
  else match lead? b.toNat with
    | none => (none, bs)
    | some l =>
      let (n, rest) := takeMore l.more l.least l.greatest l.bits bs
      (n.map Char.ofNat, rest)

theorem takeChar_length (b : UInt8) (bs : List UInt8) :
    (takeChar b bs).2.length ≤ bs.length := by
  unfold takeChar
  split
  · exact Nat.le_refl _
  · split
    · exact Nat.le_refl _
    · exact takeMore_length ..

/-- The text of bytes, with a mark in the place of what is none. -/
def decodeMarking (mark : List Char) : List UInt8 → List Char
  | [] => []
  | b :: bs => (takeChar b bs).1.elim mark ([·]) ++ decodeMarking mark (takeChar b bs).2
termination_by bs => bs.length
decreasing_by exact Nat.lt_succ_of_le (takeChar_length b bs)

/-- The text of bytes, with U+FFFD where they are none. -/
def decode (bs : List UInt8) : List Char := decodeMarking ['\uFFFD'] bs

/-- The text of bytes that are nothing but text. -/
def decode? : List UInt8 → Option (List Char)
  | [] => some []
  | b :: bs => do
    let c ← (takeChar b bs).1
    let cs ← decode? (takeChar b bs).2
    some (c :: cs)
termination_by bs => bs.length
decreasing_by exact Nat.lt_succ_of_le (takeChar_length b bs)

end EgressWatch.Text.Utf8
