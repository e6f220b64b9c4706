/-!
# Digits

Natural numbers as runs of the ten ASCII digits: written plain or filled up with zeros to a width,
and read back. Digits of other scripts are no digits here. Hexadecimal digits are read in either
case.
-/

namespace EgressWatch.Text

/-- The number that a run of digits stands for, zeros in front making no difference. -/
def natural (ds : List Char) : Nat := Nat.ofDigitChars 10 ds 0

/-- The digits of a number, without zeros in front. -/
def digits (n : Nat) : List Char := Nat.toDigits 10 n

/-- The digits of a number, filled up with zeros to at least `width` places. -/
def padded (width n : Nat) : List Char :=
  List.replicate (width - (digits n).length) '0' ++ digits n

/-- Splits the digits off the front of a text. -/
def spanDigits (cs : List Char) : List Char × List Char :=
  (cs.takeWhile Char.isDigit, cs.dropWhile Char.isDigit)

/-- A number of at least `least` and at most `most` digits off the front of a text. -/
def takeNumber (least most : Nat) (cs : List Char) : Option (Nat × List Char) :=
  let ds := (cs.take most).takeWhile Char.isDigit
  if ds.length < least then none else some (natural ds, cs.drop ds.length)

/-- The value of a hexadecimal digit in either case. -/
def hexValue? (c : Char) : Option Nat :=
  if '0' ≤ c ∧ c ≤ '9' then some (c.toNat - 48)
  else if 'a' ≤ c ∧ c ≤ 'f' then some (c.toNat - 87)
  else if 'A' ≤ c ∧ c ≤ 'F' then some (c.toNat - 55)
  else none

/-- The number that a run of hexadecimal digits stands for. -/
def hexNatural (ds : List Char) : Nat := ds.foldl (fun n d => n * 16 + (hexValue? d).getD 0) 0

/-- The hexadecimal digit of a value below 16 as a small letter. -/
def hexDigit (n : Nat) : Char := Nat.digitChar n

/-- What is written reads back. -/
@[simp] theorem natural_digits (n : Nat) : natural (digits n) = n :=
  Nat.ofDigitChars_toDigits (by decide) (by decide)

end EgressWatch.Text
