import EgressWatch.Text.Digits

/-!
# Tables of characters

What is particular to single characters is kept in tables. A table is a text of words, and all its
numbers are hexadecimal. A word is the number of a character, or two numbers with a hyphen between
for all characters from the one to the other. In some tables the words stand in sections, each
after a number with a colon.
-/

namespace EgressWatch.Text.Table

/-- The words of a text. -/
def words (s : String) : List (List Char) :=
  (s.toList.splitOnP Char.isWhitespace).filter (!·.isEmpty)

/-- The first and the last number of a word. -/
def range (w : List Char) : Nat × Nat :=
  match w.splitOn '-' with
  | [first, last] => (hexNatural first, hexNatural last)
  | _ => (hexNatural w, hexNatural w)

/-- A number is in a range. -/
def within (n : Nat) (r : Nat × Nat) : Bool := r.1 ≤ n && n ≤ r.2

/-- The ranges of a table without sections. -/
def ranges (s : String) : List (Nat × Nat) := (words s).map range

/-- A character is in one of the ranges. -/
def covers (rs : List (Nat × Nat)) (c : Char) : Bool := rs.any (within c.toNat)

/-- A section: the number with the colon, and the words after it. -/
abbrev Section := Nat × List (List Char)

/-- Puts a word in front of the words of a section that is open and of the sections after it. -/
def addWord (w : List Char) (done : List (List Char) × List Section) :
    List (List Char) × List Section :=
  if w.getLast? == some ':' then ([], (hexNatural w.dropLast, done.1) :: done.2)
  else (w :: done.1, done.2)

/-- The sections of a table. -/
def sections (s : String) : List Section :=
  ((words s).foldr addWord ([], [])).2

/-- The image of a character, where each section has the images of a character and those after it:
characters joined by plus signs. -/
def image? (ss : List Section) (c : Char) : Option (List Char) :=
  ss.findSome? fun s =>
    if c.toNat < s.1 then none
    else (s.2[c.toNat - s.1]?).map fun w => (w.splitOn '+').map fun ds => Char.ofNat (hexNatural ds)

end EgressWatch.Text.Table
