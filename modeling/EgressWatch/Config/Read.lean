import EgressWatch.Config.Basic
import EgressWatch.Store.Disk
import EgressWatch.Toml.Document

/-!
# Reading the configuration

A configuration is a TOML document (`read?`). Sections and keys that are missing keep their
defaults, unknown ones mean nothing, and a value of the wrong type makes the whole document fail. A
section is a table, or a list of its values in order; `Values` is what both come to, and
`Values.get?` looks a value up by its key or its place. Each section is read from its values by a
function of its own (`server?` to `logging?`), and `ofToml?` puts the sections together.

A moment in time is taken where a table is wanted, as a table with one entry of an odd key
(`momentKey`): the reader of TOML hands moments on in that form, and nobody looks at the key.

The configuration comes from the first source that is there (`resolve`): a path that was asked for,
which then has to load; a path in the environment and the system's own, which are passed over if
they do not load; and else all defaults hold.
-/

namespace EgressWatch.Config

/-- The values of a section, by their keys or by their places. -/
inductive Values where
  | byKey (entries : List (String × Toml))
  | byPlace (items : List Toml)

namespace Values

/-- The values of a section that is set to a value. A moment is a section without known keys. -/
def of? : Option Toml → Option Values
  | none => some (.byKey [])
  | some (.table entries) => some (.byKey entries)
  | some (.list items) => some (.byPlace items)
  | some (.moment _) => some (.byKey [])
  | some _ => none

/-- The value with a key and a place. -/
def find? (vs : Values) (place : Nat) (key : String) : Option Toml :=
  match vs with
  | byKey entries => Toml.find? key entries
  | byPlace items => items[place]?

/-- The value with a key and a place, read by `read`, or the default. -/
def get? {α : Type} (vs : Values) (place : Nat) (key : String) (default : α)
    (read : Toml → Option α) : Option α :=
  match vs.find? place key with
  | none => some default
  | some v => read v

end Values

/-! ## Values of one type -/

/-- A text. -/
def text? : Toml → Option String
  | .text s => some s
  | _ => none

/-- A flag. -/
def flag? : Toml → Option Bool
  | .flag b => some b
  | _ => none

/-- A number of hours. -/
def hours? : Toml → Option UInt64
  | .integer n => if 0 ≤ n then some (UInt64.ofNat n.toNat) else none
  | _ => none

/-- The entries of a table of texts. -/
def textEntries? : List (String × Toml) → Option (List (String × String))
  | [] => some []
  | (key, v) :: rest => do
    let s ← text? v
    let rest ← textEntries? rest
    some ((key, s) :: rest)

/-- The key under which a moment in time stands where a table is wanted. -/
def momentKey : String := "$__toml_private_datetime"

/-- A table of texts. -/
def texts? : Toml → Option (List (String × String))
  | .table entries => textEntries? entries
  | .moment m => some [(momentKey, m)]
  | _ => none

/-! ## Sections -/

/-- The section about the server. -/
def server? (vs : Values) : Option ServerConfig := do
  let d : ServerConfig := {}
  some {
    bind := ← vs.get? 0 "bind" d.bind text?
    dbPath := ← vs.get? 1 "db_path" d.dbPath text? }

/-- The section about the tunnel. -/
def tunnel? (vs : Values) : Option TunnelConfig := do
  some { proxyUrl := ← vs.get? 0 "proxy_url" none fun v => (text? v).map some }

/-- The section about probes. -/
def probe? (vs : Values) : Option ProbeConfig := do
  let d : ProbeConfig := {}
  some {
    ipCheckUrl := ← vs.get? 0 "ip_check_url" d.ipCheckUrl text?
    seenIpUrl := ← vs.get? 1 "seen_ip_url" d.seenIpUrl text?
    asnLookupUrl := ← vs.get? 2 "asn_lookup_url" d.asnLookupUrl text?
    egressSpeedUrl := ← vs.get? 3 "egress_speed_url" d.egressSpeedUrl text? }

/-- The section about the provider. -/
def upstream? (vs : Values) : Option UpstreamConfig := do
  let d : UpstreamConfig := {}
  some {
    name := ← vs.get? 0 "name" d.name text?
    host := ← vs.get? 1 "host" d.host text?
    healthUrl := ← vs.get? 2 "health_url" d.healthUrl text?
    speedUrl := ← vs.get? 3 "speed_url" d.speedUrl text?
    tokens := ← vs.get? 4 "tokens" d.tokens texts? }

/-- The section about retention. -/
def retention? (vs : Values) : Option RetentionConfig := do
  let d : RetentionConfig := {}
  some { maxAgeHours := ← vs.get? 0 "max_age_hours" d.maxAgeHours hours? }

/-- The section about logging. -/
def logging? (vs : Values) : Option LoggingConfig := do
  let d : LoggingConfig := {}
  some {
    level := ← vs.get? 0 "level" d.level text?
    json := ← vs.get? 1 "json" d.json flag? }

/-- A section of a document. -/
def section? {α : Type} (entries : List (String × Toml)) (key : String)
    (read : Values → Option α) : Option α := (Values.of? (Toml.find? key entries)).bind read

/-- The configuration that a document says. -/
def ofToml? (entries : List (String × Toml)) : Option Config := do
  some {
    server := ← section? entries "server" server?
    tunnel := ← section? entries "tunnel" tunnel?
    probe := ← section? entries "probe" probe?
    upstream := ← section? entries "upstream" upstream?
    retention := ← section? entries "retention" retention?
    logging := ← section? entries "logging" logging? }

/-- Reads a configuration. -/
def read? (text : String) : Option Config := (Toml.read? text).bind ofToml?

/-! ## Sources -/

/-- Why a configuration did not load. -/
inductive Fault where
  | unreadable (path : String)
  | malformed (path : String)
  deriving DecidableEq, Repr

namespace Fault

/-- The fault in words. -/
def message : Fault → String
  | unreadable path => "failed to read config file: " ++ path
  | malformed path => "failed to parse config file: " ++ path

end Fault

/-- Loads the configuration at a path. -/
def load (disk : Store.Disk) (path : String) : Except Fault Config :=
  match disk.read? path with
  | none => .error (.unreadable path)
  | some text =>
    match read? text with
    | some config => .ok config
    | none => .error (.malformed path)

/-- The variable of the environment that names a configuration. -/
def variableName : String := "TUNNELMON_CONFIG"

/-- The path of the system's own configuration. -/
def systemPath : String := "/etc/tunnelmon/tunnelmon.toml"

/-- The first configuration that loads, or all defaults. -/
def firstLoaded (disk : Store.Disk) : List String → Config
  | [] => {}
  | path :: rest =>
    match load disk path with
    | .ok config => config
    | .error _ => firstLoaded disk rest

/-- The configuration to use: from a path that was asked for, or else from the path in the
environment or the system's own. -/
def resolve (disk : Store.Disk) (asked environment : Option String) : Except Fault Config :=
  match asked with
  | some path => load disk path
  | none => .ok (firstLoaded disk (environment.toList ++ [systemPath]))

end EgressWatch.Config
