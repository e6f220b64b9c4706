import EgressWatch.Net.Address
import EgressWatch.Net.Label

/-!
# Hosts

The host of an address on the web: a name, or an internet address. In addresses of the well-known
schemes a name may be percent-encoded and may hold letters of any script; it is brought to small
ASCII letters, in Punycode where it has others. A name that ends in a number is an address of
version 4, whose numbers may be decimal, octal or hexadecimal and of which the last fills up the
bits that are left. In other schemes a name stands as it is, except that it may not hold the
separators of an address.
-/

namespace EgressWatch.Net

open Text

/-- A host. -/
inductive Host where
  | name (s : String)
  | address (a : Address)
  deriving DecidableEq, Repr

namespace Host

/-- The text of a host. -/
def text : Host → List Char
  | name s => s.toList
  | address (.v4 n) => Address.v4Text n
  | address (.v6 n) => '[' :: Address.v6Text n ++ [']']

/-! ## Names -/

/-- What no host may hold. -/
def isSeparator (c : Char) : Bool :=
  ['\x00', '\t', '\n', '\r', ' ', '#', '/', ':', '<', '>', '?', '@', '[', '\\', ']', '^',
    '|'].contains c

/-! ## Numbers -/

/-- The base of a number in a host, and its digits. -/
def numberBase : List Char → Nat × List Char
  | '0' :: 'x' :: ds => (16, ds)
  | '0' :: 'X' :: ds => (16, ds)
  | '0' :: d :: ds => (8, d :: ds)
  | ds => (10, ds)

/-- A number in a host. The mark of a hexadecimal number alone is 0. -/
def number? (cs : List Char) : Option Nat :=
  let (base, ds) := numberBase cs
  if cs.isEmpty then none
  else if ds.all fun d => (hexValue? d).any (· < base) then
    some (ds.foldl (fun n d => n * base + (hexValue? d).getD 0) 0)
  else none

/-- The labels of a name, an empty one at the end left out. -/
def labels (cs : List Char) : List (List Char) :=
  let ls := cs.splitOn '.'
  if 1 < ls.length && ls.getLast? == some [] then ls.dropLast else ls

/-- The last label of a name is a number. -/
def endsInNumber (cs : List Char) : Bool :=
  match (labels cs).getLast? with
  | none => false
  | some l => (!l.isEmpty && l.all Char.isDigit) || (number? l).isSome

/-- The address of version 4 that the numbers of a name make up. -/
def v4? (cs : List Char) : Option Nat := do
  let ns ← (labels cs).mapM number?
  let last ← ns.getLast?
  let front := ns.dropLast
  if 3 < front.length || front.any (255 < ·) || Nat.pow 256 (4 - front.length) ≤ last then none
  else some (front.foldl (fun n d => n * 256 + d) 0 * Nat.pow 256 (4 - front.length) + last)

/-! ## Reading -/

/-- The address of version 6 between brackets. -/
def readBracketed? (cs : List Char) : Option Host :=
  match cs.reverse with
  | ']' :: inner => (Address.readV6? inner.reverse).map fun n => address (.v6 n)
  | _ => none

/-- Reads a host of a well-known scheme. It may not be empty. -/
def readSpecial? : List Char → Option Host
  | '[' :: cs => readBracketed? cs
  | cs => do
    let bytes := Percent.decode (Utf8.encode cs)
    let plain ← Utf8.decode? bytes
    let ascii ← asciiName? plain
    if ascii.isEmpty then none
    else if endsInNumber ascii then (v4? ascii).map fun n => address (.v4 n)
    else some (name (String.ofList ascii))

/-- Reads a host of another scheme; an empty one is none. -/
def readOther? : List Char → Option (Option Host)
  | [] => some none
  | '[' :: cs => (readBracketed? cs).map some
  | cs =>
    if cs.any isSeparator then none
    else some (some (name (String.ofList (Percent.encode Percent.isControl cs))))

end Host

end EgressWatch.Net
