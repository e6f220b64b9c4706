import EgressWatch.Text.Mark

/-!
# Directions of writing

Scripts run from left to right or from right to left, numbers have directions of their own, and
signs go along with what is around them. `keepsDirection` says when a label of a name may stand
among others without changing places with them when both directions meet.

The tables tell apart the characters that a name may hold.
-/

namespace EgressWatch.Text

/-- How a character is written among others. -/
inductive Direction where
  | leftToRight
  | rightToLeft
  /-- A digit of a European number. -/
  | european
  /-- A digit or a sign of an Arabic number. -/
  | arabic
  /-- A mark, which goes with the character before it. -/
  | mark
  /-- A sign, which goes with what is around it. -/
  | neutral
  deriving DecidableEq, Repr

namespace Direction

/-- Letters and signs that are written from right to left. -/
def rightToLeftTable : String := "
5BE-5F4 608 60B 60D 61B-64A 66D-6D5 6E5-6E6 6EE-6EF 6FA-7F5 7FA-8C9 FBB2-FBC2 FE73 10800-1091B
10920-10B35 10B40-10D23 10D4A-10D4F 10D6F-10D8F 10E80-10EC7 10F00-10FF6 1E800-1ED3D"

/-- Digits and signs of Arabic numbers. -/
def arabicTable : String := "
660-669 66B-66C 10D30-10D49 10E60-10E7E"

/-- Digits of European numbers, past ASCII. -/
def europeanTable : String := "
6F0-6F9 102E1-102FB"

/-- Signs that go with what is around them, past ASCII. -/
def neutralTable : String := "
A1-D7 F7 2B9-2BA 2C2-2CF 2D2-2ED 2EF-2FF 375 3F6 58A-58F 606-607 609-60A 60C 60E-60F 66A 6DE 6E9
7F6-7F9 9F2-9F3 9FB AF1 BF3-BFA C78-C7E E3F F3A-F3D 1390-1399 1400 169B-169C 17DB 17F0-180A
1940-1945 19DE-19FF 200C-214D 218A-2335 237B-2394 2396-26AB 26AD-27FF 2900-2BFF 2CE5-2CEA 2CF9-2CFF
2E00-3004 3008-3020 3030 3037 303D-303F 30A0 30FB 31C0-31E5 4DC0-4DFF A490-A4C6 A60D-A60F A673-A67F
A700-A721 A788 A828-A82B A838-A839 A874-A877 AB6A-AB6B FBC3-FE46 10101 10140-1018C 10190-101A0 1091F
10B39-10B3F 10D6E 10ED0-10ED8 11052-11065 11660-1166C 11FD5-11FF1 16FE2 1CC00-1CEF0 1D1E9-1D245
1D300-1D356 1E2FF 1EEF0-1F12F 1F16D-1F16F 1F1AD 1F260-1FBFA"

/-- Marks that do not take room but are written from left to right all the same. -/
def leftToRightMarks : List Nat := [0xCBF, 0xCC6, 0x11A07, 0x11A08, 0x11C3F]

def rightToLeftRanges : List (Nat × Nat) := Table.ranges rightToLeftTable

def arabicRanges : List (Nat × Nat) := Table.ranges arabicTable

def europeanRanges : List (Nat × Nat) := Table.ranges europeanTable

def neutralRanges : List (Nat × Nat) := Table.ranges neutralTable

/-- The direction of a character. -/
def of (c : Char) : Direction :=
  if c.toNat < 0x80 then
    if c.isAlpha then leftToRight else if c.isDigit then european else neutral
  else if isNonspacing c then
    if leftToRightMarks.contains c.toNat then leftToRight else mark
  else if Table.covers rightToLeftRanges c then rightToLeft
  else if Table.covers arabicRanges c then arabic
  else if Table.covers europeanRanges c then european
  else if Table.covers neutralRanges c then neutral
  else leftToRight

end Direction

/-- Where the direction matters: something is written from right to left. -/
def isBidirectional (c : Char) : Bool :=
  let d := Direction.of c
  d = .rightToLeft || d = .arabic

/-- A label keeps its place among others. It starts with a letter of one direction and has none of
the other, marks at its end apart it ends in a letter or a digit, and from right to left it does not
mix the two kinds of numbers. -/
def keepsDirection (label : List Char) : Bool :=
  let ds := label.map Direction.of
  let last? := ds.reverse.find? (· != .mark)
  match ds.head? with
  | none => true
  | some .rightToLeft =>
    !ds.contains .leftToRight &&
      last?.any (fun d => d = .rightToLeft || d = .european || d = .arabic) &&
      !(ds.contains .european && ds.contains .arabic)
  | some .leftToRight =>
    !ds.contains .rightToLeft && !ds.contains .arabic &&
      last?.any fun d => d = .leftToRight || d = .european
  | some _ => false

end EgressWatch.Text
