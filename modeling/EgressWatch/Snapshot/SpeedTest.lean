import EgressWatch.Snapshot.Status

/-!
# Speed tests

A speed test measures up to two segments, from this machine into the tunnel and from the tunnel to
the provider. A segment that failed is missing, and the first failure is told. Speeds are in
megabits per second (`throughput`), a quotient of floating-point numbers, and 0 where nothing was
transferred or no time has passed.

Segments and speed tests are read and written like statuses (`Segment.take`, `SpeedTest.decode`),
the one inside the other: a draft, the fields by their names, and what has to be there at the end. A
speed that is no number is written as `null`, which no reader takes for a speed again.
-/

namespace EgressWatch

/-- One measured hop. -/
structure Segment where
  /-- Megabits per second. -/
  speed : Float
  /-- Milliseconds until the answer began. -/
  latency : UInt64
  bytes : UInt64
  sourceIp : String
  destIp : Option String

/-- What one speed test found. -/
structure SpeedTest where
  localEgress : Option Segment
  upstream : Option Segment
  /-- Milliseconds, summed over the segments that are there. -/
  totalLatency : UInt64
  testedAt : Time.Instant
  /-- The first failure. -/
  error : Option String

/-- Megabits per second, and 0 when nothing was transferred or no time passed. -/
def throughput (bytes : UInt64) (elapsed : Time.Span) : Float :=
  let seconds := (UInt64.ofNat elapsed.seconds).toFloat +
    (UInt64.ofNat elapsed.subsecond).toFloat / 1000000000.0
  if bytes == 0 || seconds <= 0.0 then 0.0 else bytes.toFloat * 8.0 / seconds / 1000000.0

namespace Segment

open Json

/-- A segment as a JSON object. -/
def toJson (s : Segment) : Json :=
  .object <|
    [("speed_mbps", .real s.speed), ("latency_ms", .word s.latency),
      ("bytes_transferred", .word s.bytes), ("source_ip", .text s.sourceIp)] ++
    member? "dest_ip" .text s.destIp

/-- The members of a segment that have been read. -/
structure Draft where
  speed : Option Float := none
  latency : Option UInt64 := none
  bytes : Option UInt64 := none
  sourceIp : Option String := none
  destIp : Option (Option String) := none

/-- The members of a segment, in the order of a list that stands for one. -/
def fields : List (Member Draft) := [
  .of "speed_mbps" true (·.speed.isSome) takeFloat fun a d => { d with speed := some a },
  .of "latency_ms" true (·.latency.isSome) takeUInt64 fun a d => { d with latency := some a },
  .of "bytes_transferred" true (·.bytes.isSome) takeUInt64 fun a d => { d with bytes := some a },
  .of "source_ip" true (·.sourceIp.isSome) takeString fun a d => { d with sourceIp := some a },
  .of "dest_ip" false (·.destIp.isSome) (takeOptional takeString)
    fun a d => { d with destIp := some a }]

/-- The segment of a draft that has all required members. -/
def Draft.finish (d : Draft) : Except Fault Segment :=
  match d with
  | { speed := some speed, latency := some latency, bytes := some bytes,
      sourceIp := some sourceIp, .. } =>
    .ok { speed, latency, bytes, sourceIp, destIp := d.destIp.join }
  | _ => .error .mismatched

/-- A segment off the front of a text. -/
def take (cs : List Char) : Except Fault (Segment × List Char) := do
  let (d, rest) ← takeRecord fields {} cs
  let s ← d.finish
  .ok (s, rest)

end Segment

namespace SpeedTest

open Json

/-- The segments that are there, in the order of the test. -/
def segments (t : SpeedTest) : List Segment := t.localEgress.toList ++ t.upstream.toList

/-- A speed test as a JSON object. -/
def toJson (t : SpeedTest) : Json :=
  .object <|
    member? "local_egress" Segment.toJson t.localEgress ++
    member? "upstream" Segment.toJson t.upstream ++
    [("total_latency_ms", .word t.totalLatency), ("tested_at", .instant t.testedAt)] ++
    member? "error" .text t.error

/-- The members of a speed test that have been read. -/
structure Draft where
  localEgress : Option (Option Segment) := none
  upstream : Option (Option Segment) := none
  totalLatency : Option UInt64 := none
  testedAt : Option Time.Instant := none
  error : Option (Option String) := none

/-- The members of a speed test, in the order of a list that stands for one. -/
def fields : List (Member Draft) := [
  .of "local_egress" false (·.localEgress.isSome) (takeOptional Segment.take)
    fun a d => { d with localEgress := some a },
  .of "upstream" false (·.upstream.isSome) (takeOptional Segment.take)
    fun a d => { d with upstream := some a },
  .of "total_latency_ms" true (·.totalLatency.isSome) takeUInt64
    fun a d => { d with totalLatency := some a },
  .of "tested_at" true (·.testedAt.isSome) takeInstant fun a d => { d with testedAt := some a },
  .of "error" false (·.error.isSome) (takeOptional takeString)
    fun a d => { d with error := some a }]

/-- The speed test of a draft that has all required members. -/
def Draft.finish (d : Draft) : Except Fault SpeedTest :=
  match d with
  | { totalLatency := some totalLatency, testedAt := some testedAt, .. } =>
    .ok {
      totalLatency, testedAt
      localEgress := d.localEgress.join
      upstream := d.upstream.join
      error := d.error.join }
  | _ => .error .mismatched

/-- A speed test off the front of a text. -/
def take (cs : List Char) : Except Fault (SpeedTest × List Char) := do
  let (d, rest) ← takeRecord fields {} cs
  let t ← d.finish
  .ok (t, rest)

/-- A speed test as text. -/
def encode (t : SpeedTest) : String := t.toJson.compact

/-- Reads a speed test. -/
def decode (text : String) : Except Fault SpeedTest := readAll take text

end SpeedTest

end EgressWatch
