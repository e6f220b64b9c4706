import EgressWatch.Net.Fetch

/-!
# The tunnel's proxy

The address of a proxy has to name a host. Where it names none, or no scheme, it is read once more
as if it were on the web (`readProxy`), and `tunnelProxy` is the proxy of a configuration, of which
an empty address is none.

Not every proxy whose address can be read is used. A connection goes through one on the web or one
that speaks SOCKS, and only if it can take the address as it stands (`carries`):

> A proxy of another kind is not refused. It is passed over, and what is meant for it goes out
> directly.

So an address that is accepted does not mean that there is a tunnel. What can be said of requests is
said for a proxy that connections go through.
-/

namespace EgressWatch.Net

/-- The address of a proxy that cannot be used. -/
structure ProxyFault where
  address : String
  deriving DecidableEq, Repr

namespace ProxyFault

/-- The fault in words. -/
def message (f : ProxyFault) : String := "Invalid tunnel proxy URL '" ++ f.address ++ "'"

end ProxyFault

/-- Reads an address that names a host. -/
def readWithHost (s : String) : Except UrlFault Url := do
  let u ← Url.read s
  if u.host.isSome then .ok u else .error .relative

/-- A scheme of proxies that speak SOCKS. -/
def isSocks (scheme : String) : Bool := ["socks4", "socks4a", "socks5", "socks5h"].contains scheme

/-- The address of a proxy with the port that it is asked at, where the scheme alone does not tell.
-/
def withProxyPort (u : Url) : Url :=
  if isSocks u.scheme && u.port.isNone then { u with port := some 1080 } else u

/-- Reads the address of a proxy. -/
def readProxy (s : String) : Except ProxyFault Url :=
  match readWithHost s with
  | .ok u => .ok (withProxyPort u)
  | .error .invalid => .error ⟨s⟩
  | .error .relative => (readWithHost ("http://" ++ s)).mapError fun _ => ⟨s⟩

/-- The proxy of a tunnel, if there is one: an empty address is none. -/
def tunnelProxy (address : Option String) : Except ProxyFault (Option Url) :=
  match address.filter (· != "") with
  | none => .ok none
  | some s => (readProxy s).map some

/-- Connections go through the proxy. -/
def carries (proxy : Url) : Bool :=
  (proxy.isWeb || isSocks proxy.scheme) &&
    !(proxy.host.map Host.text).any (·.any fun c => isOddSign c || c == '%') &&
    proxy.text.utf8ByteSize ≤ maxAddress

end EgressWatch.Net
