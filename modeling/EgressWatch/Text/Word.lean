import EgressWatch.Text.Digits

/-!
# Words in decimal

Unsigned 64-bit words as people write them: an optional plus sign and at least one digit, zeros in
front allowed. The first fault from the left is told.
-/

namespace EgressWatch.Text

/-- Why a text is no word. -/
inductive WordFault where
  | empty
  | invalidDigit
  | tooLarge
  deriving DecidableEq, Repr

namespace WordFault

/-- The fault in words. -/
def message : WordFault → String
  | empty => "cannot parse integer from empty string"
  | invalidDigit => "invalid digit found in string"
  | tooLarge => "number too large to fit in target type"

end WordFault

/-- Goes on with digits after those that make `n`, up to the greatest number allowed. -/
def readDigits (greatest n : Nat) : List Char → Except WordFault Nat
  | [] => .ok n
  | c :: cs =>
    if !c.isDigit then .error .invalidDigit
    else if greatest < n * 10 + (c.toNat - 48) then .error .tooLarge
    else readDigits greatest (n * 10 + (c.toNat - 48)) cs

/-- Reads an unsigned number up to the greatest allowed, with an optional plus sign. -/
def readNatural (greatest : Nat) : List Char → Except WordFault Nat
  | [] => .error .empty
  | '+' :: [] => .error .invalidDigit
  | '+' :: c :: cs => readDigits greatest 0 (c :: cs)
  | c :: cs => readDigits greatest 0 (c :: cs)

/-- Reads a word of 64 bits. -/
def readWord (cs : List Char) : Except WordFault UInt64 :=
  (readNatural 18446744073709551615 cs).map UInt64.ofNat

end EgressWatch.Text
