import EgressWatch.Text.Folded.Images

/-!
# Folded text

In names it makes no difference how a letter is drawn: capital and small letters, wide and narrow
forms, ligatures, numbers in circles and the like count as the plain small characters that they
stand for. Some characters count as nothing, and some have no place in a name.
-/

namespace EgressWatch.Text.Folded

def outsideRanges : List (Nat × Nat) := Table.ranges outsideTable

def vanishingRanges : List (Nat × Nat) := Table.ranges vanishingTable

def imageSections : List Table.Section := Table.sections imageTable

/-- Characters that count as others the same distance away. -/
structure Shift where
  first : Nat
  last : Nat
  step : Nat
  image : Nat

/-- Words taken by four. -/
def shiftsOf : List (List Char) → List Shift
  | a :: b :: c :: d :: rest =>
    ⟨hexNatural a, hexNatural b, hexNatural c, hexNatural d⟩ :: shiftsOf rest
  | _ => []

def shifts : List Shift := shiftsOf (Table.words shiftTable)

/-- What a character of a run counts as. -/
def Shift.image? (s : Shift) (c : Char) : Option Char :=
  if Table.within c.toNat (s.first, s.last) && (c.toNat - s.first) % s.step == 0 then
    some (Char.ofNat (s.image + (c.toNat - s.first)))
  else none

/-- What a character counts as, if it has a place in a name. -/
def ofChar (c : Char) : Option (List Char) :=
  if c.toNat < 0x80 then some [c.toLower]
  else if Table.covers outsideRanges c then none
  else if Table.covers vanishingRanges c then some []
  else
    match shifts.findSome? (·.image? c) with
    | some d => some [d]
    | none => some ((Table.image? imageSections c).getD [c])

/-- What a text counts as, if all of it has a place in a name. -/
def ofText (cs : List Char) : Option (List Char) := (cs.mapM ofChar).map List.flatten

end EgressWatch.Text.Folded
