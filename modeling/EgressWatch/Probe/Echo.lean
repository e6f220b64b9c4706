import EgressWatch.Net.Fetch
import EgressWatch.Text.Blank
import EgressWatch.Text.Shown

/-!
# Which address is seen

An echo service answers with the address that a request came from (`askEcho`). Asked directly it
tells the machine's own address, asked through the tunnel the tunnel's. What it tells is a text:
blanks around it do not count, and it has to be an address, but it is handed on as it is spelled
(`addressIn`).

A `Resolver` finds both addresses out. The machine's address does not change while the program runs,
so the first one that is found is kept and not asked for again (`Resolver.machineIp`); that of the
tunnel is asked for every time. Where an address of the machine cannot be found out it is empty,
while a tunnel's address that cannot be found out comes with its fault.
-/

namespace EgressWatch.Probe

open Net Time

/-- Why no address was found out. -/
inductive EchoFault where
  | fetch (fault : FetchFault)
  /-- The echo service answered with something else. -/
  | noAddress (answer : String)
  /-- The fault of a resolver that asks no service. -/
  | told (text : String)
  deriving DecidableEq

namespace EchoFault

/-- The fault in words. -/
def message : EchoFault → String
  | fetch fault => fault.message
  | noAddress answer => "IP echo returned " ++ Text.shown answer
  | told text => text

end EchoFault

/-- How long an echo service may take. -/
def echoLimit : Span := .ofSeconds 10

/-- The text of an address that an echo service answers with; blanks around it do not count. -/
def addressIn (answer : String) : Except EchoFault String :=
  let text := String.ofList (Text.trim answer.toList)
  if (Address.read? text).isSome then .ok text else .error (.noAddress text)

/-- What the page of an echo service says. -/
def Echo.ofPage (p : Page) : Except EchoFault String := do
  let p ← p.accepted.mapError .fetch
  let text ← (p.text echoLimit).mapError .fetch
  addressIn text

/-- Asks an echo service. -/
def askEcho (route : Route) (address : String) : Action (Except EchoFault String) := do
  match ← fetch route address none echoLimit with
  | .error fault => return .error (.fetch fault)
  | .ok page => return Echo.ofPage page

/-- Where the addresses come from. -/
inductive AddressSource where
  /-- From an echo service, asked directly for the machine's address and on the route given for the
  tunnel's. -/
  | echo (address : String) (route : Route)
  /-- From what is known beforehand. -/
  | known (machine : String) (tunnel : Except String String)

/-- Finds out addresses. -/
structure Resolver where
  source : AddressSource
  /-- The machine's address, once it was found out. -/
  machine : Option String := none

namespace Resolver

/-- The machine's address, empty if it cannot be found out. -/
def machineIp (r : Resolver) : Action (String × Resolver) := do
  match r.source with
  | .known machine _ => return (machine, r)
  | .echo address _ =>
    match r.machine with
    | some ip => return (ip, r)
    | none =>
      match ← askEcho .direct address with
      | .ok ip => return (ip, { r with machine := some ip })
      | .error _ => return ("", r)

/-- The tunnel's address. -/
def tunnelIp (r : Resolver) : Action (Except EchoFault String) :=
  match r.source with
  | .known _ ip => return ip.mapError .told
  | .echo address route => askEcho route address

end Resolver

end EgressWatch.Probe
