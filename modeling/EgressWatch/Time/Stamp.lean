import EgressWatch.Text.Blank
import EgressWatch.Text.Digits
import EgressWatch.Time.Instant

/-!
# Time stamps

Instants as RFC 3339 text. Two forms are written, both in universal time with a final `Z`: `stamp`
gives the fraction in 0, 3, 6 or 9 digits, whichever is the least that loses nothing, and
`microStamp` always gives six, cutting what is finer, so that stamps of the years 0 to 9999 have one
width and compare as text in the order of time. A year outside these carries a sign and at least
four digits. A leap second is written as second 60.

Two readers take stamps back. `ofStamp?` keeps to the format, but allows a small `t` or `z` and a
blank between date and time. `ofLooseStamp?` also lets blanks stand around the parts, reads months,
days and times of one digit, years with a sign and offsets without a colon. Both end in `ofLocal?`,
which makes an instant of a local date and time and an offset, if the calendar has it; there a
second 60 is the leap second of its minute, whichever minute that is.
-/

namespace EgressWatch.Time

open EgressWatch.Text

/-- A year: four digits, or a sign and at least four digits outside the years 0 to 9999. -/
def yearText (year : Int) : List Char :=
  if 0 ≤ year ∧ year ≤ 9999 then padded 4 year.toNat
  else (if year < 0 then '-' else '+') :: padded 4 year.natAbs

namespace Date

/-- A date as year, month and day. -/
def text (d : Date) : List Char :=
  yearText d.year ++ '-' :: padded 2 d.month ++ '-' :: padded 2 d.day

end Date

namespace Instant

/-- The second to write: a leap second is the one after the second that holds it. -/
def shownSecond (t : Instant) : Nat :=
  t.second % 60 + if nanosPerSecond ≤ t.nano then 1 else 0

/-- The fraction to write, always less than a second. -/
def shownNano (t : Instant) : Nat :=
  if nanosPerSecond ≤ t.nano then t.nano - nanosPerSecond else t.nano

/-- Date and time of day to the second. -/
def secondText (t : Instant) : List Char :=
  t.date.text ++ 'T' :: padded 2 (t.second / 3600) ++ ':' :: padded 2 (t.second / 60 % 60) ++
    ':' :: padded 2 t.shownSecond

/-- A fraction of a second in as few groups of three digits as lose nothing. -/
def fractionText (nano : Nat) : List Char :=
  if nano = 0 then []
  else if nano % 1000000 = 0 then '.' :: padded 3 (nano / 1000000)
  else if nano % 1000 = 0 then '.' :: padded 6 (nano / 1000)
  else '.' :: padded 9 nano

/-- The stamp of an instant, exact to the nanosecond. -/
def stamp (t : Instant) : List Char := t.secondText ++ fractionText t.shownNano ++ ['Z']

/-- The stamp of an instant cut to the microsecond, of one width for the years 0 to 9999. -/
def microStamp (t : Instant) : List Char :=
  t.secondText ++ '.' :: padded 6 (t.shownNano / 1000) ++ ['Z']

/-- The instant of a local date and time at an offset in seconds east of universal time. A second
60 is the leap second after second 59. -/
def ofLocal? (date : Date) (hour minute second nano : Nat) (offset : Int) : Option Instant :=
  if date.Valid ∧ hour < 24 ∧ minute < 60 ∧ second ≤ 60 then
    let (second, nano) := if second = 60 then (59, nano + nanosPerSecond) else (second, nano)
    ofEpoch? (date.dayNumber * 86400 + (hour * 3600 + minute * 60 + second : Nat) - offset) nano
  else none

/-! ## Reading -/

/-- One given character off the front. -/
def takeChar (c : Char) : List Char → Option (List Char)
  | [] => none
  | x :: rest => if x = c then some rest else none

/-- The mark between date and time off the front. -/
def takeTimeMark : List Char → Option (List Char)
  | [] => none
  | x :: rest => if x = 'T' ∨ x = 't' ∨ x = ' ' then some rest else none

/-- A fraction off the front, if a point announces one: of its digits nine count. -/
def takeFraction : List Char → Option (Nat × List Char)
  | '.' :: rest => do
    let (n, tail) ← takeNumber 1 9 rest
    let places := rest.length - tail.length
    some (n * Nat.pow 10 (9 - places), tail.dropWhile Char.isDigit)
  | cs => some (0, cs)

/-- The sign of an offset off the front, either minus sign counting: true is west. -/
def takeOffsetSign : List Char → Option (Bool × List Char)
  | [] => none
  | x :: rest =>
    if x = '+' then some (false, rest)
    else if x = '-' ∨ x = '−' then some (true, rest)
    else none

/-- An offset in seconds off the front: `Z`, or a sign, two digits of hours, what `between` takes
away, and two digits of minutes. -/
def takeOffset (between : List Char → Option (List Char)) : List Char → Option (Int × List Char)
  | [] => none
  | x :: rest =>
    if x = 'Z' ∨ x = 'z' then some (0, rest)
    else do
      let (west, cs) ← takeOffsetSign (x :: rest)
      let (hours, cs) ← takeNumber 2 2 cs
      let cs ← between cs
      let (minutes, cs) ← takeNumber 2 2 cs
      if minutes < 60 then
        let size : Int := (hours * 3600 + minutes * 60 : Nat)
        some (if west then -size else size, cs)
      else none

/-- Reads a stamp that keeps to the format, with an offset of less than a day. -/
def ofStamp? (cs : List Char) : Option Instant := do
  let (year, cs) ← takeNumber 4 4 cs
  let cs ← takeChar '-' cs
  let (month, cs) ← takeNumber 2 2 cs
  let cs ← takeChar '-' cs
  let (day, cs) ← takeNumber 2 2 cs
  let cs ← takeTimeMark cs
  let (hour, cs) ← takeNumber 2 2 cs
  let cs ← takeChar ':' cs
  let (minute, cs) ← takeNumber 2 2 cs
  let cs ← takeChar ':' cs
  let (second, cs) ← takeNumber 2 2 cs
  let (nano, cs) ← takeFraction cs
  let (offset, cs) ← takeOffset (takeChar ':') cs
  if cs.isEmpty ∧ offset.natAbs < 86400 then
    ofLocal? ⟨year, month, day⟩ hour minute second nano offset
  else none

/-- A year off the front: with a sign of any length, without one of at most four digits. -/
def takeYear : List Char → Option (Int × List Char)
  | [] => none
  | x :: rest =>
    if x = '-' then (takeNumber 1 rest.length rest).map fun (n, tail) => (-(n : Int), tail)
    else if x = '+' then (takeNumber 1 rest.length rest).map fun (n, tail) => ((n : Int), tail)
    else (takeNumber 1 4 (x :: rest)).map fun (n, tail) => ((n : Int), tail)

/-- One or two digits off the front, after any blanks. -/
def takeLoosePair (cs : List Char) : Option (Nat × List Char) := takeNumber 1 2 (trimStart cs)

/-- A mark off the front, after any blanks. -/
def takeLooseChar (c : Char) (cs : List Char) : Option (List Char) := takeChar c (trimStart cs)

/-- An offset or the letters `UTC` in either case off the front. -/
def takeLooseOffset (cs : List Char) : Option (Int × List Char) :=
  match cs with
  | u :: t :: c :: rest =>
    if u.toUpper = 'U' ∧ t.toUpper = 'T' ∧ c.toUpper = 'C' then some (0, rest)
    else takeOffset (fun cs => some (cs.dropWhile fun c => c == ':' || isBlank c)) cs
  | _ => takeOffset (fun cs => some (cs.dropWhile fun c => c == ':' || isBlank c)) cs

/-- Reads a stamp loosely: blanks may stand around its parts and zeros in front may be missing. -/
def ofLooseStamp? (cs : List Char) : Option Instant := do
  let (year, cs) ← takeYear (trimStart cs)
  let cs ← takeLooseChar '-' cs
  let (month, cs) ← takeLoosePair cs
  let cs ← takeLooseChar '-' cs
  let (day, cs) ← takeLoosePair cs
  let cs ← takeTimeMark cs
  let (hour, cs) ← takeLoosePair cs
  let cs ← takeLooseChar ':' cs
  let (minute, cs) ← takeLoosePair cs
  let cs ← takeLooseChar ':' cs
  let (second, cs) ← takeLoosePair cs
  let (nano, cs) ← takeFraction cs
  let (offset, cs) ← takeLooseOffset (trimStart cs)
  if (trimStart cs).isEmpty ∧ offset.natAbs < 86400 then
    ofLocal? ⟨year, month, day⟩ hour minute second nano offset
  else none

end Instant

end EgressWatch.Time
