import EgressWatch.Counters
import EgressWatch.Probe.Health
import EgressWatch.Snapshot.SpeedTest

/-!
# Speed tests

A speed test downloads a document through the tunnel (`Tester.runEgress`) and, if there is a token
for the provider, one from the provider (`Tester.runUpstream`). Each download makes a segment,
between addresses that are looked up when it is done; one that fails makes none, but what arrived of
it is counted all the same. The segments do not depend on each other.

`Tester.summary` makes a speed test of what came of the segments: those that were measured, the sum
of their latencies, and the first failure under the name of its segment. An empty token is none
(`usableToken`). A test bears the instant at which it began.
-/

namespace EgressWatch.Probe

open Net Time

/-- How long the download of the first segment may take. -/
def egressLimit : Span := .ofSeconds 30

/-- How long the download of the second segment may take. -/
def upstreamLimit : Span := .ofSeconds 60

/-- A download that was completed. -/
structure Transfer where
  latency : UInt64
  bytes : UInt64
  elapsed : Span
  deriving DecidableEq

/-- What a download comes to: the transfer if it was completed, and the bytes that arrived. -/
structure Download where
  result : Except FetchFault Transfer
  arrived : UInt64

/-- The bytes of chunks, counted as words are. -/
def countBytes (chunks : List (List UInt8)) : UInt64 :=
  chunks.foldl (fun n c => n + UInt64.ofNat c.length) 0

namespace Download

/-- The download of a page. -/
def ofPage (limit : Span) (page : Page) : Download :=
  match page.accepted with
  | .error fault => ⟨.error fault, 0⟩
  | .ok page =>
    let body := page.body limit
    let bytes := countBytes body.chunks
    if body.whole then ⟨.ok ⟨Probe.latency page, bytes, body.elapsed⟩, bytes⟩
    else ⟨.error .brokenBody, bytes⟩

end Download

/-- Downloads a document. -/
def download (route : Route) (address : String) (token : Option String) (limit : Span) :
    Action Download := do
  match ← fetch route address token limit with
  | .error fault => return ⟨.error fault, 0⟩
  | .ok page => return .ofPage limit page

/-- The segment that a transfer makes between two addresses. -/
def Transfer.segment (t : Transfer) (sourceIp : String) (destIp : Option String) : Segment :=
  { speed := throughput t.bytes t.elapsed, latency := t.latency, bytes := t.bytes,
    sourceIp, destIp }

/-- What a speed test downloads. -/
structure Tester where
  /-- The way through the tunnel. -/
  tunnel : Route
  provider : Provider
  egressUrl : String

/-- What came of one segment, with the resolver and the counters after it. -/
structure SegmentRun where
  result : Except FetchFault Segment
  resolver : Resolver
  counters : Counters

/-- The token to show, if there is one: an empty token is none. -/
def usableToken (token : Option String) : Option String := token.filter (· != "")

namespace Tester

/-- Measures the way from this machine into the tunnel. -/
def runEgress (t : Tester) (r : Resolver) (counters : Counters) : Action SegmentRun := do
  let d ← download t.tunnel t.egressUrl none egressLimit
  let counters := counters.addSpeedTest d.arrived
  match d.result with
  | .error fault => return ⟨.error fault, r, counters⟩
  | .ok transfer =>
    let (machineIp, r) ← r.machineIp
    let tunnelIp ← r.tunnelIp
    return ⟨.ok (transfer.segment machineIp (tunnelIp.toOption.filter (· != ""))), r, counters⟩

/-- Measures the way from the tunnel to the provider. -/
def runUpstream (t : Tester) (token : String) (r : Resolver) (counters : Counters) :
    Action SegmentRun := do
  let d ← download t.tunnel t.provider.speedUrl (some token) upstreamLimit
  let counters := counters.addSpeedTest d.arrived
  match d.result with
  | .error fault => return ⟨.error fault, r, counters⟩
  | .ok transfer =>
    let tunnelIp ← r.tunnelIp
    return ⟨.ok (transfer.segment (tunnelIp.toOption.getD "") (some t.provider.host)), r, counters⟩

/-- The failure of a segment under a name. -/
def failure? (name : String) : Except FetchFault Segment → Option String
  | .ok _ => none
  | .error fault => some (name ++ ": " ++ fault.message)

/-- The speed test that the outcomes of its segments make. -/
def summary (t : Tester) (now : Instant) (egress : Except FetchFault Segment)
    (upstream : Option (Except FetchFault Segment)) : SpeedTest :=
  let segments := egress.toOption.toList ++ (upstream.bind Except.toOption).toList
  { localEgress := egress.toOption
    upstream := upstream.bind Except.toOption
    totalLatency := (segments.map (·.latency)).foldl (· + ·) 0
    testedAt := now
    error := (failure? "egress" egress).or (upstream.bind (failure? t.provider.name)) }

/-- Tests the speed. -/
def run (t : Tester) (token : Option String) (r : Resolver) (counters : Counters) :
    Action (SpeedTest × Resolver × Counters) := do
  let now ← readClock
  let egress ← t.runEgress r counters
  match usableToken token with
  | none => return (t.summary now egress.result none, egress.resolver, egress.counters)
  | some token =>
    let upstream ← t.runUpstream token egress.resolver egress.counters
    return (t.summary now egress.result (some upstream.result), upstream.resolver,
      upstream.counters)

end Tester

end EgressWatch.Probe
