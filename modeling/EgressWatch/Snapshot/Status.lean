import EgressWatch.Json.Record
import EgressWatch.Json.Value
import EgressWatch.Time.Stamp

/-!
# Status snapshots

A status says which address each way out presents, whether the tunnel carries traffic, and whether
the provider answers. Problems met on the way are part of it, so making one never fails.

`tunnelIsActive` is the one judgement in it: the tunnel's address is known and is spelled otherwise
than the machine's. Addresses are not read for that, and an unknown address of the machine counts as
one more spelling.

Written (`Status.toJson`), what is not known is left out; read (`Status.decode`), what was left out
is not known. In between stands a `Draft`, which holds what has been read so far: members may come
in any order, or without names in the order of the fields, and each at most once (`fields`); only at
the end is it asked whether any is missing (`Draft.finish`).
-/

namespace EgressWatch

/-- What one status check found. -/
structure Status where
  /-- The address presented without the tunnel, empty if it is not known. -/
  machineIp : String
  /-- The address presented through the tunnel, empty if it is not known. -/
  tunnelIp : String
  /-- The autonomous system of the tunnel's address, empty if it is not known. -/
  tunnelAsn : String
  /-- The holder of the tunnel's address, empty if it is not known. -/
  tunnelOrg : String
  tunnelActive : Bool
  upstreamOk : Bool
  /-- Milliseconds until the provider answered, 0 if it did not. -/
  upstreamLatency : UInt64
  /-- The address that a service behind the tunnel saw. -/
  upstreamSeenIp : Option String
  /-- The first problem that was met. -/
  lastError : Option String
  checkedAt : Time.Instant
  deriving DecidableEq

/-- The tunnel carries traffic when it presents an address and not the one presented without it. -/
def tunnelIsActive (machineIp tunnelIp : String) : Bool := tunnelIp != "" && tunnelIp != machineIp

namespace Json

/-- An instant, as its stamp. -/
def instant (t : Time.Instant) : Json := .text (String.ofList t.stamp)

/-- A text that is left out when it is empty. -/
def nonempty? (s : String) : Option String := if s = "" then none else some s

/-- A stamp off the front. -/
def takeInstant (cs : List Char) : Except Fault (Time.Instant × List Char) := do
  let (s, rest) ← takeString cs
  match Time.Instant.ofLooseStamp? s.toList with
  | some t => .ok (t, rest)
  | none => .error .mismatched

end Json

namespace Status

open Json

/-- A status as a JSON object. -/
def toJson (s : Status) : Json :=
  .object <|
    [("machine_ip", .text s.machineIp), ("tunnel_ip", .text s.tunnelIp)] ++
    member? "tunnel_asn" .text (nonempty? s.tunnelAsn) ++
    member? "tunnel_org" .text (nonempty? s.tunnelOrg) ++
    [("tunnel_active", .flag s.tunnelActive), ("upstream_ok", .flag s.upstreamOk),
      ("upstream_latency_ms", .word s.upstreamLatency)] ++
    member? "upstream_seen_ip" .text s.upstreamSeenIp ++
    member? "last_error" .text s.lastError ++
    [("checked_at", .instant s.checkedAt)]

/-- The members of a status that have been read. -/
structure Draft where
  machineIp : Option String := none
  tunnelIp : Option String := none
  tunnelAsn : Option String := none
  tunnelOrg : Option String := none
  tunnelActive : Option Bool := none
  upstreamOk : Option Bool := none
  upstreamLatency : Option UInt64 := none
  upstreamSeenIp : Option (Option String) := none
  lastError : Option (Option String) := none
  checkedAt : Option Time.Instant := none

/-- The members of a status, in the order of a list that stands for one. -/
def fields : List (Member Draft) := [
  .of "machine_ip" true (·.machineIp.isSome) takeString fun a d => { d with machineIp := some a },
  .of "tunnel_ip" true (·.tunnelIp.isSome) takeString fun a d => { d with tunnelIp := some a },
  .of "tunnel_asn" false (·.tunnelAsn.isSome) takeString fun a d => { d with tunnelAsn := some a },
  .of "tunnel_org" false (·.tunnelOrg.isSome) takeString fun a d => { d with tunnelOrg := some a },
  .of "tunnel_active" true (·.tunnelActive.isSome) takeFlag
    fun a d => { d with tunnelActive := some a },
  .of "upstream_ok" true (·.upstreamOk.isSome) takeFlag fun a d => { d with upstreamOk := some a },
  .of "upstream_latency_ms" true (·.upstreamLatency.isSome) takeUInt64
    fun a d => { d with upstreamLatency := some a },
  .of "upstream_seen_ip" false (·.upstreamSeenIp.isSome) (takeOptional takeString)
    fun a d => { d with upstreamSeenIp := some a },
  .of "last_error" false (·.lastError.isSome) (takeOptional takeString)
    fun a d => { d with lastError := some a },
  .of "checked_at" true (·.checkedAt.isSome) takeInstant
    fun a d => { d with checkedAt := some a }]

/-- The status of a draft that has all required members. -/
def Draft.finish (d : Draft) : Except Fault Status :=
  match d with
  | { machineIp := some machineIp, tunnelIp := some tunnelIp, tunnelActive := some tunnelActive,
      upstreamOk := some upstreamOk, upstreamLatency := some upstreamLatency,
      checkedAt := some checkedAt, .. } =>
    .ok {
      machineIp, tunnelIp, tunnelActive, upstreamOk, upstreamLatency, checkedAt
      tunnelAsn := d.tunnelAsn.getD ""
      tunnelOrg := d.tunnelOrg.getD ""
      upstreamSeenIp := d.upstreamSeenIp.join
      lastError := d.lastError.join }
  | _ => .error .mismatched

/-- A status off the front of a text. -/
def take (cs : List Char) : Except Fault (Status × List Char) := do
  let (d, rest) ← takeRecord fields {} cs
  let s ← d.finish
  .ok (s, rest)

/-- A status as text. -/
def encode (s : Status) : String := s.toJson.compact

/-- Reads a status. -/
def decode (text : String) : Except Fault Status := readAll take text

end Status

end EgressWatch
