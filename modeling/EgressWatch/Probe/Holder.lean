import EgressWatch.Json.Record
import EgressWatch.Net.Fetch

/-!
# Who holds an address

A register tells the autonomous system that an address belongs to and the organisation that holds
it. It is asked directly, for the tunnel's address only, and its answer is welcome but not needed:
where there is none, nothing is said about the holder (`askRegister`).

The answer is read from its bytes (`Holder.ofBytes?`). Strings that are passed over need not be text
there, while those that are read do; bytes that are no text are replaced by what passes in the first
case and fails in the second (`strayMark`).
-/

namespace EgressWatch.Probe

open Json Net Time

/-- The holder of an address. What is not known is empty. -/
structure Holder where
  asn : String := ""
  org : String := ""
  deriving DecidableEq

namespace Holder

/-- The members of an answer of the register that have been read. -/
structure Draft where
  asn : Option String := none
  org : Option String := none

/-- The members of an answer of the register, in the order of a list that stands for one. -/
def fields : List (Member Draft) := [
  .of "as" false (·.asn.isSome) takeString fun a d => { d with asn := some a },
  .of "org" false (·.org.isSome) takeString fun a d => { d with org := some a }]

/-- A holder off the front of a text. -/
def take (cs : List Char) : Except Fault (Holder × List Char) := do
  let (d, rest) ← takeRecord fields {} cs
  .ok ({ asn := d.asn.getD "", org := d.org.getD "" }, rest)

/-- Reads an answer of the register. -/
def decode (text : String) : Except Fault Holder := readAll take text

/-- What is read in the place of bytes that are no text: a letter that no escape begins with, and
the escape of half a pair. -/
def strayMark : List Char := ['x', '\\', 'u', 'd', 'c', '0', '0']

/-- The holder that the bytes of an answer tell. A string that is passed over may hold any bytes, as
it may hold half a pair; everywhere else bytes that are no text are as wrong as that. -/
def ofBytes? (bytes : List UInt8) : Option Holder :=
  (decode (String.ofList (Text.Utf8.decodeMarking strayMark bytes))).toOption

end Holder

/-- How long the register may take. -/
def registerLimit : Span := .ofSeconds 5

/-- Where to ask the register for an address. -/
def registerAddress (base ip : String) : String :=
  String.ofList (base.toList.reverse.dropWhile (· == '/')).reverse ++ "/" ++ ip ++ "?fields=as,org"

/-- What a page of the register says. -/
def Holder.ofPage? (p : Page) : Option Holder := do
  let p ← p.accepted.toOption
  let bytes ← (p.bytes registerLimit).toOption
  Holder.ofBytes? bytes

/-- Asks the register. -/
def askRegister (base ip : String) : Action (Option Holder) := do
  match ← fetch .direct (registerAddress base ip) none registerLimit with
  | .error _ => return none
  | .ok page => return Holder.ofPage? page

/-- Where holders come from. -/
inductive HolderSource where
  /-- From a register. -/
  | register (base : String)
  /-- From what is known beforehand. -/
  | known (holder : Option Holder)

namespace HolderSource

/-- The holder of an address, if it can be found out. -/
def lookup (s : HolderSource) (ip : String) : Action (Option Holder) :=
  match s with
  | .known holder => return holder
  | .register base => askRegister base ip

end HolderSource

end EgressWatch.Probe
