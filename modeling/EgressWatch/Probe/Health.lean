import EgressWatch.Probe.Echo
import EgressWatch.Probe.Holder
import EgressWatch.Snapshot.Status

/-!
# Status checks

A status check asks, one after the other, for the machine's address, for the tunnel's, for the
holder of the tunnel's address if there is one, for the address that a service behind the tunnel
sees, and for the provider's health page (`Checker.ask`). Whatever comes of these makes `Findings`,
and findings make a status (`Findings.status`), so a check always comes to an end with one.

Of the problems with the tunnel's address and the health page the first is told
(`Findings.firstProblem`); all others are passed over. The health page is in order if its status is
200; its body is not looked at, and the time until its headers had arrived is the latency of the
provider (`Health.ofFetch`).
-/

namespace EgressWatch.Probe

open Net Time

/-- The provider whose reach and speed are measured. -/
structure Provider where
  name : String
  host : String
  healthUrl : String
  speedUrl : String
  deriving DecidableEq, Repr

/-- The largest word if a number is larger. -/
def saturated (n : Nat) : UInt64 := UInt64.ofNat (min n 18446744073709551615)

/-- The milliseconds until the headers of a page had arrived. -/
def latency (p : Page) : UInt64 := saturated p.waited.milliseconds

/-- How long the provider's health page may take. -/
def healthLimit : Span := .ofSeconds 10

/-- How the provider's health page was found. -/
structure Health where
  ok : Bool
  latency : UInt64
  problem : Option String
  deriving DecidableEq

namespace Health

/-- The health that the outcome of asking for the page tells. -/
def ofFetch : Except FetchFault Page → Health
  | .error fault => ⟨false, 0, some fault.message⟩
  | .ok page =>
    if page.response.status = 200 then ⟨true, Probe.latency page, none⟩
    else ⟨false, Probe.latency page,
      some ("unexpected status " ++ StatusCode.text page.response.status)⟩

end Health

/-- What a status check asks. -/
structure Checker where
  holders : HolderSource
  /-- The way through the tunnel. -/
  tunnel : Route
  provider : Provider
  seenIpUrl : String

/-- The findings of a status check. -/
structure Findings where
  machineIp : String
  tunnelIp : Except EchoFault String
  holder : Option Holder
  seenIp : Except EchoFault String
  health : Health

namespace Findings

/-- The first problem of those that count. -/
def firstProblem (f : Findings) (providerName : String) : Option String :=
  match f.tunnelIp with
  | .error fault => some ("tunnel: " ++ fault.message)
  | .ok _ => f.health.problem.map fun problem => providerName ++ ": " ++ problem

/-- The status that findings make. -/
def status (f : Findings) (providerName : String) (now : Instant) : Status :=
  let tunnelIp := f.tunnelIp.toOption.getD ""
  let holder := f.holder.getD {}
  { machineIp := f.machineIp
    tunnelIp
    tunnelAsn := holder.asn
    tunnelOrg := holder.org
    tunnelActive := tunnelIsActive f.machineIp tunnelIp
    upstreamOk := f.health.ok
    upstreamLatency := f.health.latency
    upstreamSeenIp := f.seenIp.toOption
    lastError := f.firstProblem providerName
    checkedAt := now }

end Findings

namespace Checker

/-- The holder of the tunnel's address, asked for only if there is an address. -/
def askHolder (c : Checker) : Except EchoFault String → Action (Option Holder)
  | .error _ => return none
  | .ok ip => if ip = "" then return none else c.holders.lookup ip

/-- Asks everything. -/
def ask (c : Checker) (r : Resolver) : Action (Findings × Resolver) := do
  let (machineIp, r) ← r.machineIp
  let tunnelIp ← r.tunnelIp
  let holder ← c.askHolder tunnelIp
  let seenIp ← askEcho c.tunnel c.seenIpUrl
  let page ← fetch c.tunnel c.provider.healthUrl none healthLimit
  return ({ machineIp, tunnelIp, holder, seenIp, health := .ofFetch page }, r)

/-- Checks the status. -/
def check (c : Checker) (r : Resolver) : Action (Status × Resolver) := do
  let (findings, r) ← c.ask r
  let now ← readClock
  return (findings.status c.provider.name now, r)

end Checker

end EgressWatch.Probe
