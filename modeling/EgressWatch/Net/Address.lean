import EgressWatch.Text.Digits

/-!
# Internet addresses

Addresses of versions 4 and 6 as numbers, and their texts. An address of version 4 is four decimal
numbers without zeros in front; one of version 6 is eight groups of up to four hexadecimal digits,
of which the last two may be written as an address of version 4 and a run of zeros may be left out.
A `Socket` adds a port, and brackets around an address of version 6, which may name a zone there.

`Address.read?` reads an address of either version, and a text is one or is none as a whole. Groups
are taken off the front as long as there are some and room for them (`takeGroups`), before and after
the run that is left out.

One address of version 6 has many texts, so whether two texts name the same address is a question
about their values, not their spellings. Written, an address has one (`v4Text`, `v6Text`).
-/

namespace EgressWatch.Net

open Text

/-- An address. -/
inductive Address where
  /-- An address of version 4, a number of 32 bits. -/
  | v4 (value : Nat)
  /-- An address of version 6, a number of 128 bits. -/
  | v6 (value : Nat)
  deriving DecidableEq, Repr

namespace Address

/-- A decimal number below 256 without zeros in front off the front. -/
def takeOctet (cs : List Char) : Option (Nat × List Char) :=
  let ds := cs.takeWhile Char.isDigit
  if ds.isEmpty || 3 < ds.length || (ds.head? == some '0' && 1 < ds.length) || 255 < natural ds then
    none
  else some (natural ds, cs.drop ds.length)

/-- So many further numbers, each after a dot, off the front. -/
def takeOctets : Nat → Nat → List Char → Option (Nat × List Char)
  | 0, value, cs => some (value, cs)
  | more + 1, value, '.' :: cs => do
    let (n, rest) ← takeOctet cs
    takeOctets more (value * 256 + n) rest
  | _ + 1, _, _ => none

/-- An address of version 4 off the front. -/
def takeV4 (cs : List Char) : Option (Nat × List Char) := do
  let (n, rest) ← takeOctet cs
  takeOctets 3 n rest

/-- A group of one to four hexadecimal digits off the front. -/
def takeGroup (cs : List Char) : Option (Nat × List Char) :=
  let ds := cs.takeWhile fun c => (hexValue? c).isSome
  if ds.isEmpty || 4 < ds.length then none else some (hexNatural ds, cs.drop ds.length)

/-- The colon before a group, if groups precede it, off the front. -/
def takeColon (first : Bool) (cs : List Char) : Option (List Char) :=
  match first, cs with
  | true, cs => some cs
  | false, ':' :: cs => some cs
  | false, _ => none

/-- Groups off the front. -/
structure Groups where
  groups : List Nat
  /-- The last two were written as an address of version 4. -/
  mixed : Bool
  rest : List Char

/-- At most `room` groups off the front, after those read before. -/
def takeGroups : Nat → List Nat → List Char → Groups
  | 0, groups, cs => ⟨groups, false, cs⟩
  | room + 1, groups, cs =>
    match takeColon groups.isEmpty cs with
    | none => ⟨groups, false, cs⟩
    | some tail =>
      match if 1 ≤ room then takeV4 tail else none with
      | some (n, rest) => ⟨groups ++ [n / 65536, n % 65536], true, rest⟩
      | none =>
        match takeGroup tail with
        | some (g, rest) => takeGroups room (groups ++ [g]) rest
        | none => ⟨groups, false, cs⟩

/-- The value of eight groups. -/
def groupsValue (groups : List Nat) : Nat := groups.foldl (fun n g => n * 65536 + g) 0

/-- An address of version 6 off the front. -/
def takeV6 (cs : List Char) : Option (Nat × List Char) :=
  let front := takeGroups 8 [] cs
  if front.groups.length = 8 then some (groupsValue front.groups, front.rest)
  else if front.mixed then none
  else match front.rest with
    | ':' :: ':' :: tail =>
      let back := takeGroups (7 - front.groups.length) [] tail
      let zeros := List.replicate (8 - front.groups.length - back.groups.length) 0
      some (groupsValue (front.groups ++ zeros ++ back.groups), back.rest)
    | _ => none

/-- Reads an address of version 6. -/
def readV6? (cs : List Char) : Option Nat :=
  match takeV6 cs with
  | some (n, []) => some n
  | _ => none

/-- Reads an address of either version. -/
def read? (s : String) : Option Address :=
  match takeV4 s.toList with
  | some (n, []) => some (.v4 n)
  | some _ => none
  | none => (readV6? s.toList).map .v6

/-! ## Writing -/

/-- The eight groups of a number. -/
def groupsOf (value : Nat) : List Nat :=
  (List.range 8).map fun i => value / Nat.pow 65536 (7 - i) % 65536

/-- The hexadecimal digits of a number. -/
def hexText (n : Nat) : List Char := Nat.toDigits 16 n

/-- How many zeros a list starts with. -/
def leadingZeros (groups : List Nat) : Nat := (groups.takeWhile (· == 0)).length

/-- The place and length of the first longest run of zeros. -/
def longestZeros (groups : List Nat) : Nat × Nat :=
  (List.range groups.length).foldl (fun best i =>
    let n := leadingZeros (groups.drop i)
    if best.2 < n then (i, n) else best) (0, 0)

/-- Groups with colons between them. -/
def groupsText (groups : List Nat) : List Char := [':'].intercalate (groups.map hexText)

/-- The text of an address of version 6, the first longest run of two or more zero groups left
out. -/
def v6Text (value : Nat) : List Char :=
  let groups := groupsOf value
  let (start, n) := longestZeros groups
  if n < 2 then groupsText groups
  else groupsText (groups.take start) ++ "::".toList ++ groupsText (groups.drop (start + n))

/-- The text of an address of version 4. -/
def v4Text (value : Nat) : List Char :=
  ['.'].intercalate
    [digits (value / 16777216), digits (value / 65536 % 256), digits (value / 256 % 256),
      digits (value % 256)]

end Address

/-- An address and a port. -/
structure Socket where
  address : Address
  port : Nat
  /-- The zone of an address of version 6. -/
  scope : Nat := 0
  deriving DecidableEq, Repr

namespace Socket

/-- A number of decimal digits up to the greatest allowed off the front. -/
def takeBounded (greatest : Nat) (cs : List Char) : Option (Nat × List Char) :=
  let (ds, rest) := spanDigits cs
  if ds.isEmpty || greatest < natural ds then none else some (natural ds, rest)

/-- The port after its colon, at the end. -/
def readPort? : List Char → Option Nat
  | ':' :: cs =>
    match takeBounded 65535 cs with
    | some (n, []) => some n
    | _ => none
  | _ => none

/-- The zone off the front, if a percent sign announces one. -/
def takeScope : List Char → Option (Nat × List Char)
  | '%' :: cs => takeBounded 4294967295 cs
  | cs => some (0, cs)

/-- Reads a socket address. -/
def read? (s : String) : Option Socket :=
  match s.toList with
  | '[' :: cs => do
    let (value, rest) ← Address.takeV6 cs
    let (scope, rest) ← takeScope rest
    match rest with
    | ']' :: rest =>
      let port ← readPort? rest
      some { address := .v6 value, port, scope }
    | _ => none
  | cs => do
    let (value, rest) ← Address.takeV4 cs
    let port ← readPort? rest
    some { address := .v4 value, port }

end Socket

end EgressWatch.Net
