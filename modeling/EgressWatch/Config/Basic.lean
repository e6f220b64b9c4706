import EgressWatch.Probe.Health
import EgressWatch.Time.Span

/-!
# Configuration

What can be set, in sections, and what holds where nothing is set: the values of the fields are
their defaults, so that `({} : Config)` is the configuration of an empty text.

Tokens are kept by user; the one under `*` (`anyone`) is for everybody without one of their own
(`UpstreamConfig.tokenFor`). An empty token is none, and keeps its user from having that of
everybody.

The retention is given in hours, and `hoursSpan` is the span of so many: a number of hours whose
seconds do not fit a word comes to the largest word of seconds, and so to fewer hours than were
given.
-/

namespace EgressWatch

/-- Where the program listens and where it keeps its data. -/
structure ServerConfig where
  bind : String := "0.0.0.0:8080"
  dbPath : String := "data/tunnelmon.db"
  deriving DecidableEq, Repr

/-- The way into the tunnel; without a proxy requests for the tunnel go out directly. -/
structure TunnelConfig where
  proxyUrl : Option String := none
  deriving DecidableEq, Repr

/-- The services that a probe asks. -/
structure ProbeConfig where
  ipCheckUrl : String := "https://api.ipify.org"
  seenIpUrl : String := "https://checkip.amazonaws.com"
  asnLookupUrl : String := "http://ip-api.com/json"
  egressSpeedUrl : String := "https://speed.cloudflare.com/__down?bytes=5000000"
  deriving DecidableEq, Repr

/-- The provider behind the tunnel. -/
structure UpstreamConfig where
  name : String := "realdebrid"
  host : String := "real-debrid.com"
  healthUrl : String := "https://api.real-debrid.com/time"
  speedUrl : String := "https://real-debrid.com/speedtest"
  /-- Tokens by user. -/
  tokens : List (String × String) := []
  deriving DecidableEq, Repr

/-- How long snapshots are kept. -/
structure RetentionConfig where
  maxAgeHours : UInt64 := 168
  deriving DecidableEq, Repr

/-- What is logged. -/
structure LoggingConfig where
  level : String := "info"
  json : Bool := false
  deriving DecidableEq, Repr

/-- A configuration. -/
structure Config where
  server : ServerConfig := {}
  tunnel : TunnelConfig := {}
  probe : ProbeConfig := {}
  upstream : UpstreamConfig := {}
  retention : RetentionConfig := {}
  logging : LoggingConfig := {}
  deriving DecidableEq, Repr

namespace UpstreamConfig

/-- The entry for everybody without one of their own. -/
def anyone : String := "*"

/-- The token under a name. -/
def tokenUnder (c : UpstreamConfig) (name : String) : Option String :=
  (c.tokens.find? fun t => t.1 == name).map (·.2)

/-- The token of a user. An empty one is none, and keeps the user from having that of everybody. -/
def tokenFor (c : UpstreamConfig) (user : String) : Option String :=
  ((c.tokenUnder user).or (c.tokenUnder anyone)).filter (· != "")

/-- What is measured at the provider. -/
def provider (c : UpstreamConfig) : Probe.Provider := ⟨c.name, c.host, c.healthUrl, c.speedUrl⟩

end UpstreamConfig

/-- The span of so many hours, cut to as many seconds as a word of 64 bits holds. -/
def hoursSpan (hours : UInt64) : Time.Span :=
  .ofSeconds (min (hours.toNat * 3600) 18446744073709551615)

namespace RetentionConfig

/-- How old a snapshot may get. -/
def maxAge (c : RetentionConfig) : Time.Span := hoursSpan c.maxAgeHours

end RetentionConfig

end EgressWatch
