import EgressWatch.Snapshot.Status

/-!
# Byte counters

Three counters run as long as the program, and nothing sets them back: bytes of requests taken in
(`Counters.addInbound`), bytes of answers sent out (`Counters.addOutbound`), and bytes downloaded by
speed tests (`Counters.addSpeedTest`). They are words of 64 bits and start over past the largest, so
what a run adds to one of them is its sum taken modulo 2^64, in whatever order it was added.

`Bandwidth` is what a reader of the counters sees (`Counters.read`): their values and the instant
from which they have been counting. It is shown as JSON, all members at all times
(`Bandwidth.toJson`), and `Bandwidth.decode` wants all of them back.
-/

namespace EgressWatch

/-- The counters and the instant at which they started at 0. -/
structure Counters where
  inbound : UInt64 := 0
  outbound : UInt64 := 0
  speedTest : UInt64 := 0
  startedAt : Time.Instant

namespace Counters

/-- Counters that start at an instant. -/
def start (now : Time.Instant) : Counters := { startedAt := now }

/-- Counts bytes of requests. -/
def addInbound (c : Counters) (n : UInt64) : Counters := { c with inbound := c.inbound + n }

/-- Counts bytes of answers. -/
def addOutbound (c : Counters) (n : UInt64) : Counters := { c with outbound := c.outbound + n }

/-- Counts bytes downloaded by a speed test. -/
def addSpeedTest (c : Counters) (n : UInt64) : Counters := { c with speedTest := c.speedTest + n }

end Counters

/-- The readings of the counters. -/
structure Bandwidth where
  bytesIn : UInt64
  bytesOut : UInt64
  speedTestBytes : UInt64
  since : Time.Instant
  deriving DecidableEq

namespace Counters

/-- Reads the counters. -/
def read (c : Counters) : Bandwidth := ⟨c.inbound, c.outbound, c.speedTest, c.startedAt⟩

end Counters

namespace Bandwidth

open Json

/-- Readings as a JSON object. -/
def toJson (b : Bandwidth) : Json :=
  .object [("dashboard_bytes_in", .word b.bytesIn), ("dashboard_bytes_out", .word b.bytesOut),
    ("speedtest_bytes", .word b.speedTestBytes), ("since_restart_at", .instant b.since)]

/-- The members of readings that have been read. -/
structure Draft where
  bytesIn : Option UInt64 := none
  bytesOut : Option UInt64 := none
  speedTestBytes : Option UInt64 := none
  since : Option Time.Instant := none

/-- The members of readings, in the order of a list that stands for them. -/
def fields : List (Member Draft) := [
  .of "dashboard_bytes_in" true (·.bytesIn.isSome) takeUInt64
    fun a d => { d with bytesIn := some a },
  .of "dashboard_bytes_out" true (·.bytesOut.isSome) takeUInt64
    fun a d => { d with bytesOut := some a },
  .of "speedtest_bytes" true (·.speedTestBytes.isSome) takeUInt64
    fun a d => { d with speedTestBytes := some a },
  .of "since_restart_at" true (·.since.isSome) takeInstant fun a d => { d with since := some a }]

/-- The readings of a draft that has all members. -/
def Draft.finish (d : Draft) : Except Fault Bandwidth :=
  match d with
  | ⟨some bytesIn, some bytesOut, some speedTestBytes, some since⟩ =>
    .ok ⟨bytesIn, bytesOut, speedTestBytes, since⟩
  | _ => .error .mismatched

/-- Readings off the front of a text. -/
def take (cs : List Char) : Except Fault (Bandwidth × List Char) := do
  let (d, rest) ← takeRecord fields {} cs
  let b ← d.finish
  .ok (b, rest)

/-- Readings as text. -/
def encode (b : Bandwidth) : String := b.toJson.compact

/-- Reads readings. -/
def decode (text : String) : Except Fault Bandwidth := readAll take text

end Bandwidth

end EgressWatch
