import EgressWatch.Text.Digits
import EgressWatch.Time.Calendar
import EgressWatch.Toml.Value

/-!
# Simple values in TOML

Numbers, flags and moments in time as they are written in TOML (`scalar?`). A text without blanks is
one of these or nothing, so each kind is tried on all of it.

Digits may be set apart by single underscores; zeros in front are allowed in exponents only.
Integers fit 64 bits and may be hexadecimal, octal or binary, then without a sign (`integer?`). A
real number is rounded to the nearest double (`nearest`), and may not exceed the doubles upwards
(`real?`). A moment is a date, a time of day, or both with or without an offset from universal time,
and is kept in its normal form (`moment?`): nine digits of a fraction count, and zeros at the end do
not.
-/

namespace EgressWatch.Toml

open Text

/-! ## Numbers -/

/-- Digits of a kind without the underscores between them; at least one. -/
def plainDigits? (isDigit : Char → Bool) : List Char → Option (List Char)
  | [] => none
  | [c] => if isDigit c then some [c] else none
  | c :: '_' :: cs => if isDigit c then (plainDigits? isDigit cs).map (c :: ·) else none
  | c :: cs => if isDigit c then (plainDigits? isDigit cs).map (c :: ·) else none

/-- Decimal digits without zeros in front. -/
def wholeDigits? (cs : List Char) : Option (List Char) := do
  let ds ← plainDigits? Char.isDigit cs
  if ds.head? == some '0' && 1 < ds.length then none else some ds

/-- A sign off the front: whether it is a minus. -/
def takeSign : List Char → Bool × List Char
  | '-' :: cs => (true, cs)
  | '+' :: cs => (false, cs)
  | cs => (false, cs)

/-- An integer of 64 bits. -/
def fitting? (n : Int) : Option Int :=
  if -9223372036854775808 ≤ n ∧ n ≤ 9223372036854775807 then some n else none

/-- A number in a base. -/
def based? (base : Nat) (cs : List Char) : Option Int := do
  let ds ← plainDigits? (fun c => (hexValue? c).any (· < base)) cs
  fitting? (ds.foldl (fun n d => n * base + (hexValue? d).getD 0) 0 : Nat)

/-- An integer. -/
def integer? (cs : List Char) : Option Int :=
  match cs with
  | '0' :: 'x' :: ds => based? 16 ds
  | '0' :: 'o' :: ds => based? 8 ds
  | '0' :: 'b' :: ds => based? 2 ds
  | cs => do
    let (minus, ds) := takeSign cs
    let ds ← wholeDigits? ds
    fitting? (if minus then -(natural ds : Int) else natural ds)

/-- Digits without zeros in front, times a power of ten, as a double; what is out of reach becomes
infinite or zero. -/
def nearest (digits : List Char) (exponent : Int) : Float :=
  let n := natural digits
  let top := exponent + digits.length
  if n = 0 ∨ top < -400 then 0.0
  else if 400 < top then 1.0 / 0.0
  else if exponent < 0 then Float.ofScientific n true exponent.natAbs
  else Float.ofScientific n false exponent.natAbs

/-- The exponent of a real number. -/
def exponent? : List Char → Option Int
  | [] => some 0
  | _ :: cs => do
    let (minus, ds) := takeSign cs
    let ds ← plainDigits? Char.isDigit ds
    some (if minus then -(natural ds : Int) else natural ds)

/-- The digits after the point of a real number. -/
def fraction? : List Char → Option (List Char)
  | [] => some []
  | _ :: cs => plainDigits? Char.isDigit cs

/-- A real number with a point or an exponent. -/
def decimal? (cs : List Char) : Option Float := do
  let (minus, body) := takeSign cs
  let isMark (c : Char) : Bool := c == 'e' || c == 'E'
  let (front, tail) := (body.takeWhile (!isMark ·), body.dropWhile (!isMark ·))
  let (whole, places) := (front.takeWhile (· != '.'), front.dropWhile (· != '.'))
  if places.isEmpty && tail.isEmpty then none
  else
    let whole ← wholeDigits? whole
    let places ← fraction? places
    let exponent ← exponent? tail
    let x := nearest ((whole ++ places).dropWhile (· == '0')) (exponent - places.length)
    if minus then some (-x) else if x.isInf then none else some x

/-- A real number. -/
def real? (cs : List Char) : Option Float :=
  let (minus, body) := takeSign cs
  if body == "inf".toList then some (if minus then -(1.0 / 0.0) else 1.0 / 0.0)
  else if body == "nan".toList then some (0.0 / 0.0)
  else decimal? cs

/-! ## Moments -/

/-- A number of exactly so many digits within bounds off the front. -/
def takeFixed (width least greatest : Nat) (cs : List Char) : Option (Nat × List Char) := do
  let (n, rest) ← takeNumber width width cs
  if least ≤ n ∧ n ≤ greatest then some (n, rest) else none

/-- A given character off the front. -/
def takeMark (c : Char) : List Char → Option (List Char)
  | [] => none
  | x :: cs => if x = c then some cs else none

/-- A date off the front, in its normal form. -/
def takeDate (cs : List Char) : Option (List Char × List Char) := do
  let (year, cs) ← takeFixed 4 0 9999 cs
  let cs ← takeMark '-' cs
  let (month, cs) ← takeFixed 2 1 12 cs
  let cs ← takeMark '-' cs
  let (day, cs) ← takeFixed 2 1 31 cs
  if (Time.Date.mk year month day).Valid then
    some (padded 4 year ++ '-' :: padded 2 month ++ '-' :: padded 2 day, cs)
  else none

/-- The fraction of a second off the front, in its normal form: nine digits count, and zeros at the
end do not. -/
def takeFraction : List Char → Option (List Char × List Char)
  | '.' :: cs =>
    let (ds, rest) := spanDigits cs
    let kept := ((ds.take 9).reverse.dropWhile (· == '0')).reverse
    if ds.isEmpty then none else some (if kept.isEmpty then [] else '.' :: kept, rest)
  | cs => some ([], cs)

/-- A time of day off the front, in its normal form. -/
def takeTime (cs : List Char) : Option (List Char × List Char) := do
  let (hour, cs) ← takeFixed 2 0 23 cs
  let cs ← takeMark ':' cs
  let (minute, cs) ← takeFixed 2 0 59 cs
  let cs ← takeMark ':' cs
  let (second, cs) ← takeFixed 2 0 60 cs
  let (fraction, cs) ← takeFraction cs
  some (padded 2 hour ++ ':' :: padded 2 minute ++ ':' :: padded 2 second ++ fraction, cs)

/-- An offset at the end, in its normal form. None at all is positive. -/
def offset? : List Char → Option (List Char)
  | [] => some []
  | c :: cs =>
    if c = 'Z' ∨ c = 'z' then if cs.isEmpty then some ['Z'] else none
    else if c = '+' ∨ c = '-' then do
      let (hour, cs) ← takeFixed 2 0 23 cs
      let cs ← takeMark ':' cs
      let (minute, cs) ← takeFixed 2 0 59 cs
      let sign := if hour = 0 ∧ minute = 0 then '+' else c
      if cs.isEmpty then some (sign :: padded 2 hour ++ ':' :: padded 2 minute) else none
    else none

/-- A moment, in its normal form. -/
def moment? (cs : List Char) : Option (List Char) :=
  match takeDate cs with
  | some (date, []) => some date
  | some (date, c :: cs) =>
    if c = 'T' ∨ c = 't' ∨ c = ' ' then do
      let (time, cs) ← takeTime cs
      let offset ← offset? cs
      some (date ++ 'T' :: time ++ offset)
    else none
  | none =>
    match takeTime cs with
    | some (time, []) => some time
    | _ => none

/-- A flag, a moment or a number. -/
def scalar? (cs : List Char) : Option Toml :=
  if cs == "true".toList then some (.flag true)
  else if cs == "false".toList then some (.flag false)
  else match moment? cs with
    | some m => some (.moment (String.ofList m))
    | none =>
      match integer? cs with
      | some n => some (.integer n)
      | none => (real? cs).map .real

end EgressWatch.Toml
