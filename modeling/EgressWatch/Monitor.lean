import EgressWatch.Config.Basic
import EgressWatch.Net.Proxy
import EgressWatch.Probe.Speed

/-!
# The monitor

The monitor runs status checks (`probeStatus`) and speed tests (`probeSpeedTest`), remembers the
last of each, and keeps the byte counters. What it knows of addresses is in its resolver, which goes
through all probes: the machine's address, once found, is not asked for again.

It is made from a configuration (`ofConfig`), if the tunnel's proxy can be used. With a proxy that
connections go through all that is meant for the tunnel goes through the tunnel, and without one
everything goes out directly (`tunnelRoute`). Where addresses and holders come from can be set apart
from that (`withSources`).
-/

namespace EgressWatch

open Net Probe Time

/-- A monitor. -/
structure Monitor where
  resolver : Resolver
  checker : Checker
  tester : Tester
  counters : Counters
  lastStatus : Option Status := none
  lastSpeedTest : Option SpeedTest := none

namespace Monitor

/-- The way that is taken for the tunnel. -/
def tunnelRoute (proxy : Option Url) : Route := if proxy.any carries then .tunnel else .direct

/-- A monitor with these sources of addresses and holders, all else as in the configuration. -/
def withSources (config : Config) (route : Route) (addresses : AddressSource)
    (holders : HolderSource) (now : Instant) : Monitor :=
  { resolver := { source := addresses }
    checker := {
      holders, tunnel := route
      provider := config.upstream.provider
      seenIpUrl := config.probe.seenIpUrl }
    tester := {
      tunnel := route
      provider := config.upstream.provider
      egressUrl := config.probe.egressSpeedUrl }
    counters := .start now }

/-- The monitor that a configuration describes, if its proxy can be used. -/
def ofConfig (config : Config) (now : Instant) : Except ProxyFault Monitor := do
  let proxy ← tunnelProxy config.tunnel.proxyUrl
  let route := tunnelRoute proxy
  .ok <| withSources config route (.echo config.probe.ipCheckUrl route)
    (.register config.probe.asnLookupUrl) now

/-- The machine's address, empty if it cannot be found out. -/
def machineIp (m : Monitor) : Action (String × Monitor) := do
  let (ip, resolver) ← m.resolver.machineIp
  return (ip, { m with resolver })

/-- Checks the status and remembers it. -/
def probeStatus (m : Monitor) : Action (Status × Monitor) := do
  let (status, resolver) ← m.checker.check m.resolver
  return (status, { m with resolver, lastStatus := some status })

/-- Tests the speed and remembers it. -/
def probeSpeedTest (m : Monitor) (token : Option String) : Action (SpeedTest × Monitor) := do
  let (test, resolver, counters) ← m.tester.run token m.resolver m.counters
  return (test, { m with resolver, counters, lastSpeedTest := some test })

/-- Reads the counters. -/
def bandwidth (m : Monitor) : Bandwidth := m.counters.read

/-- Counts bytes of requests. -/
def addInbound (m : Monitor) (n : UInt64) : Monitor :=
  { m with counters := m.counters.addInbound n }

/-- Counts bytes of answers. -/
def addOutbound (m : Monitor) (n : UInt64) : Monitor :=
  { m with counters := m.counters.addOutbound n }

/-- Counts bytes downloaded by a speed test. -/
def addSpeedTest (m : Monitor) (n : UInt64) : Monitor :=
  { m with counters := m.counters.addSpeedTest n }

end Monitor

end EgressWatch
