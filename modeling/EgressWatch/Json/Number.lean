import EgressWatch.Decimal.Shortest
import EgressWatch.Json.Fault

/-!
# JSON numbers

A number is first taken off the text as a `Literal`, the digits as they stand (`Literal.take`), and
then valued (`Literal.value`). Without fraction and exponent it is a whole number where a 64-bit
word, unsigned or, after a minus, signed, holds it; `-0` and all else is a real number, a double.

A double is valued in one floating-point step per power of ten (`scaled?`): the leading digits that
fit an unsigned 64-bit word make the significand, later digits only count places, and the
significand is multiplied by a power of ten or divided by one. What grows past the doubles is a
fault; what is too small becomes zero.

Written, a double has the fewest digits that tell it apart (`floatText`), positional for powers of
ten from -5 to 15 and with at least one decimal, else as in `2.5e-7` and `1e+16`. So what was
written need not be what is read, for the steps of reading are rounded one by one.
-/

namespace EgressWatch.Json

open EgressWatch.Text

/-- The value of a number. -/
inductive Number where
  | natural (n : UInt64)
  | negative (n : Int)
  | real (x : Float)

/-- A number as it stands in the text. -/
structure Literal where
  minus : Bool
  whole : List Char
  /-- The digits after the point, if there is one. -/
  fraction : Option (List Char)
  /-- The digits after the exponent mark, if there is one, and whether a minus precedes them. -/
  exponent : Option (Bool × List Char)

namespace Literal

/-- The characters of a literal. -/
def text (l : Literal) : List Char :=
  (if l.minus then ['-'] else []) ++ l.whole ++
    (match l.fraction with | some ds => '.' :: ds | none => []) ++
    match l.exponent with
    | some (down, ds) => 'e' :: (if down then '-' else '+') :: ds
    | none => []

/-- Digits off the front, at least one. A text that ends where a digit has to come is answered
with the fault `early`. -/
def takeSomeDigits (early : Fault) (cs : List Char) : Except Fault (List Char × List Char) :=
  match cs with
  | [] => .error early
  | c :: _ => if c.isDigit then .ok (spanDigits cs) else .error .malformed

/-- The digits before the point off the front: a 0 alone, or digits that start with another. -/
def takeWhole (early : Fault) : List Char → Except Fault (List Char × List Char)
  | [] => .error early
  | '0' :: rest =>
    match rest with
    | c :: _ => if c.isDigit then .error .malformed else .ok (['0'], rest)
    | [] => .ok (['0'], rest)
  | c :: rest => if c.isDigit then .ok (spanDigits (c :: rest)) else .error .malformed

/-- The fraction off the front, if a point announces one. -/
def takeFraction (early : Fault) : List Char → Except Fault (Option (List Char) × List Char)
  | '.' :: rest => do
    let (ds, rest) ← takeSomeDigits early rest
    .ok (some ds, rest)
  | cs => .ok (none, cs)

/-- The sign of an exponent off the front. -/
def takeSign : List Char → Bool × List Char
  | '-' :: rest => (true, rest)
  | '+' :: rest => (false, rest)
  | cs => (false, cs)

/-- The exponent off the front, if a mark announces one. -/
def takeExponent (early : Fault) : List Char → Except Fault (Option (Bool × List Char) × List Char)
  | [] => .ok (none, [])
  | c :: rest =>
    if c = 'e' ∨ c = 'E' then do
      let (down, rest) := takeSign rest
      let (ds, rest) ← takeSomeDigits early rest
      .ok (some (down, ds), rest)
    else .ok (none, c :: rest)

/-- A minus off the front. -/
def takeMinus : List Char → Bool × List Char
  | '-' :: rest => (true, rest)
  | cs => (false, cs)

/-- A literal off the front. A text that ends where a digit has to come is answered with `early`. -/
def take (early : Fault) (cs : List Char) : Except Fault (Literal × List Char) := do
  let (minus, cs) := takeMinus cs
  let (whole, cs) ← takeWhole early cs
  let (fraction, cs) ← takeFraction early cs
  let (exponent, cs) ← takeExponent early cs
  .ok (⟨minus, whole, fraction, exponent⟩, cs)

end Literal

/-! ## The value of a literal -/

/-- The largest unsigned 64-bit word. -/
def maxWord : Nat := 18446744073709551615

/-- A power of ten as the nearest double. -/
def powerOfTen (n : Nat) : Float := Float.ofScientific 1 false n

/-- The significand of the digits before the point: leading digits while a word holds them, and how
many digits were left out. -/
def wholePart (n : Nat) : List Char → Nat × Nat
  | [] => (n, 0)
  | d :: ds =>
    if n * 10 + (d.toNat - 48) ≤ maxWord then wholePart (n * 10 + (d.toNat - 48)) ds
    else (n, ds.length + 1)

/-- The significand continued by the digits after the point while a word holds it, and how many of
them were taken in. -/
def fractionPart (n taken : Nat) : List Char → Nat × Nat
  | [] => (n, taken)
  | d :: ds =>
    if n * 10 + (d.toNat - 48) ≤ maxWord then fractionPart (n * 10 + (d.toNat - 48)) (taken + 1) ds
    else (n, taken)

/-- A double divided by a power of ten, in steps that doubles can express. -/
def divideByPower (x : Float) (n : Nat) : Float :=
  if n ≤ 308 then x / powerOfTen n
  else if x == 0.0 then x
  else divideByPower (x / powerOfTen 308) (n - 308)
termination_by n

/-- A significand times a power of ten, if a double holds it. -/
def scaled? (significand : Nat) (exponent : Int) : Option Float :=
  let x := (UInt64.ofNat significand).toFloat
  if exponent < 0 then some (divideByPower x exponent.natAbs)
  else if exponent ≤ 308 then
    let y := x * powerOfTen exponent.toNat
    if y.isInf then none else some y
  else if significand = 0 then some x
  else none

namespace Literal

/-- The exponent of a literal; an omitted one is 0. -/
def exponentValue (l : Literal) : Int :=
  match l.exponent with
  | none => 0
  | some (down, ds) => if down then -(Text.natural ds : Int) else Text.natural ds

/-- The size of the number, without its sign, as a double, if a double holds it. -/
def size? (l : Literal) : Option Float :=
  let (n, dropped) := wholePart 0 l.whole
  let (n, taken) := fractionPart n 0 (l.fraction.getD [])
  scaled? n (dropped - taken + l.exponentValue)

/-- The number as a double, if a double holds it. -/
def float? (l : Literal) : Option Float :=
  l.size?.map fun x => if l.minus then -x else x

/-- The value of a literal. -/
def value (l : Literal) : Except Fault Number :=
  match l.fraction, l.exponent, wholePart 0 l.whole with
  | none, none, (n, 0) =>
    if !l.minus then .ok (.natural (UInt64.ofNat n))
    else if 0 < n ∧ n ≤ 9223372036854775808 then .ok (.negative (-n))
    else .ok (.real (-(UInt64.ofNat n).toFloat))
  | _, _, _ =>
    match l.float? with
    | some x => .ok (.real x)
    | none => .error .malformed

end Literal

namespace Number

/-- A number off the front. -/
def take (cs : List Char) : Except Fault (Number × List Char) := do
  let (l, cs) ← Literal.take .truncated cs
  let n ← l.value
  .ok (n, cs)

/-- Any number as a double. -/
def toFloat : Number → Float
  | .natural n => n.toFloat
  | .negative n => Float.ofInt n
  | .real x => x

end Number

/-! ## Writing -/

/-- A decimal in the notation of JSON: positional for powers of ten from -5 to 15. -/
def decimalText (d : Decimal.Scaled) : List Char :=
  let ds := digits d.digits
  let top : Int := d.exponent + ds.length - 1
  if 0 ≤ top ∧ top ≤ 15 then
    let places := top.toNat + 1
    if ds.length ≤ places then ds ++ List.replicate (places - ds.length) '0' ++ ['.', '0']
    else ds.take places ++ '.' :: ds.drop places
  else if -5 ≤ top ∧ top < 0 then
    '0' :: '.' :: List.replicate (-top - 1).toNat '0' ++ ds
  else
    let exponent := 'e' :: (if top < 0 then '-' else '+') :: digits top.natAbs
    match ds with
    | [] => exponent
    | [c] => c :: exponent
    | c :: rest => c :: '.' :: rest ++ exponent

/-- A finite double. -/
def floatText (x : Float) : List Char :=
  let sign := if x.toBits < 9223372036854775808 then [] else ['-']
  sign ++ if x == 0.0 then ['0', '.', '0'] else decimalText (Decimal.shortest x)

/-- A whole number. -/
def intText (n : Int) : List Char :=
  if n < 0 then '-' :: digits n.natAbs else digits n.toNat

end EgressWatch.Json
