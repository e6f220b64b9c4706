import EgressWatch.Text.Digits
import EgressWatch.Text.Utf8

/-!
# Percent-encoding

Bytes that a place in an address does not allow are written as a percent sign and two hexadecimal
digits. Characters beyond ASCII are never allowed and are written byte by byte. Read, a percent sign
without two digits after it stands for itself.
-/

namespace EgressWatch.Text.Percent

/-- The written form of a byte. -/
def escape (b : UInt8) : List Char :=
  ['%', (hexDigit (b.toNat / 16)).toUpper, (hexDigit (b.toNat % 16)).toUpper]

/-- Writes a text of which the characters in a class, and those beyond ASCII, are not allowed. -/
def encode (forbidden : Char → Bool) (cs : List Char) : List Char :=
  cs.flatMap fun c =>
    if c.toNat < 0x80 && !forbidden c then [c] else (Utf8.encode [c]).flatMap escape

/-- The bytes of a written text. -/
def decode : List UInt8 → List UInt8
  | [] => []
  | b :: high :: low :: rest =>
    match b == 0x25, hexValue? (Char.ofNat high.toNat), hexValue? (Char.ofNat low.toNat) with
    | true, some h, some l => UInt8.ofNat (h * 16 + l) :: decode rest
    | _, _, _ => b :: decode (high :: low :: rest)
  | b :: rest => b :: decode rest

/-! ## The characters that are not allowed in the parts of an address -/

/-- The ASCII control characters. -/
def isControl (c : Char) : Bool := c.toNat < 0x20 || c.toNat == 0x7F

/-- What a fragment may not hold. -/
def inFragment (c : Char) : Bool := isControl c || [' ', '"', '<', '>', '`'].contains c

/-- What a path may not hold. -/
def inPath (c : Char) : Bool := inFragment c || ['#', '?', '\x7b', '\x7d'].contains c

/-- What names and passwords may not hold. -/
def inUser (c : Char) : Bool :=
  inPath c || ['/', ':', ';', '=', '@', '[', '\\', ']', '^', '|'].contains c

/-- What a query may not hold. -/
def inQuery (c : Char) : Bool := isControl c || [' ', '"', '#', '<', '>'].contains c

/-- What a query in an address of a well-known scheme may not hold. -/
def inSpecialQuery (c : Char) : Bool := inQuery c || c == '\''

end EgressWatch.Text.Percent
