import EgressWatch.Text.Composed
import EgressWatch.Text.Direction
import EgressWatch.Text.Folded
import EgressWatch.Text.Joining
import EgressWatch.Text.Percent
import EgressWatch.Text.Punycode

/-!
# Labels of names

The parts of the name of a host between its dots. A label may hold letters of any script. In ASCII
such a label is `xn--` and its letters in Punycode, and a label that starts so means these letters.

Letters have one form, that of folded and composed text (`normalForm`). A name is brought to it
before its labels are told apart (`readLabels`), while a label in ASCII has to mean letters that
have it already (`ofPunycode?`). Then each label is looked at as a whole (`isSound`): it holds
nothing that no name may hold, starts with no mark, and its joiners make a difference. If anything
in a name is written from right to left, all of its labels have to keep their places
(`keepsDirection`).

`asciiName?` is the name in ASCII, all labels of it, if there is one. Labels that would take too
long to write or read are refused (`maxLetters`, `maxPunycode`).
-/

namespace EgressWatch.Net

open Text

/-- A label: its letters, and its form in ASCII where it was given. -/
structure Label where
  letters : List Char
  given : Option (List Char) := none
  deriving DecidableEq, Repr

namespace Label

/-- All characters are in ASCII. -/
def isAscii (cs : List Char) : Bool := cs.all (·.toNat < 0x80)

/-- The most letters that a label not in ASCII may have. -/
def maxLetters : Nat := 1000

/-- The most characters of Punycode that a label may have. -/
def maxPunycode : Nat := 2000

/-- What a label in Punycode starts with. -/
def punycodeMark : List Char := ['x', 'n', '-', '-']

/-- The one form of letters. -/
def normalForm (cs : List Char) : Option (List Char) := (Folded.ofText cs).map compose

/-- The label that Punycode means: it has letters past ASCII, in their one form, and ends in no
hyphen. -/
def ofPunycode? (cs : List Char) : Option Label :=
  if !isAscii cs || maxPunycode < cs.length || cs.getLast? == some '-' then none
  else
    match Punycode.decode cs with
    | none => none
    | some letters =>
      if isAscii letters || normalForm letters != some letters then none
      else some { letters, given := some (punycodeMark ++ cs) }

/-- The label that letters in their one form make. -/
def ofLetters? (cs : List Char) : Option Label :=
  if punycodeMark.isPrefixOf cs then ofPunycode? (cs.drop punycodeMark.length)
  else some { letters := cs }

/-- What no name may hold. -/
def isForbidden (c : Char) : Bool :=
  Percent.isControl c ||
    [' ', '#', '%', '/', ':', '<', '>', '?', '@', '[', '\\', ']', '^', '|'].contains c

/-- A label that a name may have: it starts with no mark, and its joiners make a difference. -/
def isSound (l : Label) : Bool :=
  !l.letters.any isForbidden && !l.letters.head?.any isMark && joinersMatter l.letters &&
    (isAscii l.letters || l.letters.length ≤ maxLetters)

/-- A label with something written from right to left. -/
def isBidirectional (l : Label) : Bool := l.letters.any Text.isBidirectional

/-- A label in ASCII. -/
def ascii (l : Label) : List Char :=
  l.given.getD (if isAscii l.letters then l.letters else punycodeMark ++ Punycode.encode l.letters)

end Label

/-- The labels of a name. Where something is written from right to left, all of them have to keep
their places. -/
def readLabels (cs : List Char) : Option (List Label) := do
  let folded ← Label.normalForm cs
  let ls ← (folded.splitOn '.').mapM Label.ofLetters?
  let areInPlace := !ls.any Label.isBidirectional || ls.all (keepsDirection ·.letters)
  if ls.all Label.isSound && areInPlace then some ls else none

/-- A name in small ASCII letters. -/
def asciiName? (cs : List Char) : Option (List Char) :=
  (readLabels cs).map fun ls => ['.'].intercalate (ls.map Label.ascii)

end EgressWatch.Net
