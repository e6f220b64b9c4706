import EgressWatch.Config.Read
import EgressWatch.Proofs.Toml.Document

/-!
# Settings one by one

A configuration has fifteen settings (`Setting`). Each has a key in one of six sections, and a
document says something about it or does not, whatever it says about the others. The readers go
section by section and fail as a whole; this file opens them once and for all and takes them apart
into what each setting asks for alone:

> `Given doc s c`: the section of `s` can be read, and what stands in it under the key of `s` says
> what `c` has for `s`, or nothing stands there and `c` has the default.

What a value says is kept apart from where it stands. `Says` relates a value to what a setting is
set to (`Field`), and each reader of a single value gives exactly what is said (`text?_eq_some_iff`
and its siblings). That an integer says a number of hours takes the document to be well formed,
since only then is it a word (`hours?_eq_some_iff`); the module on documents has proved that.

From there on it goes upward: a lookup with a default is one setting (`Values.get?_eq_some_iff`), a
section is all of its settings (`server?_eq_some_iff` to `logging?_eq_some_iff`), and with
`read_section_eq_some_iff` a document is all of its sections:

> `ofToml?_eq_some_iff`: a document reads as a configuration exactly if every setting is given.

All else about configurations follows setting by setting, without a look at the readers.
-/

namespace EgressWatch.Config

/-- What can be set. -/
inductive Setting where
  | bind | dbPath
  | proxyUrl
  | ipCheckUrl | seenIpUrl | asnLookupUrl | egressSpeedUrl
  | name | host | healthUrl | speedUrl | tokens
  | maxAgeHours
  | level | json

/-- What a setting is set to, by its type. -/
inductive Field where
  | text (s : String)
  | choice (s : Option String)
  | texts (entries : List (String × String))
  | hours (n : UInt64)
  | flag (b : Bool)

namespace Setting

/-- The name of the section of a setting. -/
def part : Setting → String
  | bind | dbPath => "server"
  | proxyUrl => "tunnel"
  | ipCheckUrl | seenIpUrl | asnLookupUrl | egressSpeedUrl => "probe"
  | name | host | healthUrl | speedUrl | tokens => "upstream"
  | maxAgeHours => "retention"
  | level | json => "logging"

/-- The key of a setting in its section. -/
def key : Setting → String
  | bind => "bind"
  | dbPath => "db_path"
  | proxyUrl => "proxy_url"
  | ipCheckUrl => "ip_check_url"
  | seenIpUrl => "seen_ip_url"
  | asnLookupUrl => "asn_lookup_url"
  | egressSpeedUrl => "egress_speed_url"
  | name => "name"
  | host => "host"
  | healthUrl => "health_url"
  | speedUrl => "speed_url"
  | tokens => "tokens"
  | maxAgeHours => "max_age_hours"
  | level => "level"
  | json => "json"

/-- The place of a setting in its section, where that is a list. -/
def place : Setting → Nat
  | bind | proxyUrl | ipCheckUrl | name | maxAgeHours | level => 0
  | dbPath | seenIpUrl | host | json => 1
  | asnLookupUrl | healthUrl => 2
  | egressSpeedUrl | speedUrl => 3
  | tokens => 4

/-- What a configuration sets a setting to. -/
def field : Setting → Config → Field
  | bind, c => .text c.server.bind
  | dbPath, c => .text c.server.dbPath
  | proxyUrl, c => .choice c.tunnel.proxyUrl
  | ipCheckUrl, c => .text c.probe.ipCheckUrl
  | seenIpUrl, c => .text c.probe.seenIpUrl
  | asnLookupUrl, c => .text c.probe.asnLookupUrl
  | egressSpeedUrl, c => .text c.probe.egressSpeedUrl
  | name, c => .text c.upstream.name
  | host, c => .text c.upstream.host
  | healthUrl, c => .text c.upstream.healthUrl
  | speedUrl, c => .text c.upstream.speedUrl
  | tokens, c => .texts c.upstream.tokens
  | maxAgeHours, c => .hours c.retention.maxAgeHours
  | level, c => .text c.logging.level
  | json, c => .flag c.logging.json

end Setting

/-- The value that says what a setting is set to. A moment where a table of texts is wanted says a
table with one entry. -/
inductive Says : Toml → Field → Prop
  | text (s : String) : Says (.text s) (.text s)
  | choice (s : String) : Says (.text s) (.choice (some s))
  | texts (entries : List (String × String)) :
    Says (.table (entries.map fun e => (e.1, .text e.2))) (.texts entries)
  | moment (m : String) : Says (.moment m) (.texts [(momentKey, m)])
  | hours (n : UInt64) : Says (.integer n.toNat) (.hours n)
  | flag (b : Bool) : Says (.flag b) (.flag b)

/-! ## Values of one type -/

section Readers

variable {v : Toml}

theorem text?_eq_some_iff {s : String} : text? v = some s ↔ Says v (.text s) := by
  constructor
  · intro h
    cases v <;> simp only [text?, Option.some.injEq, reduceCtorEq] at h
    exact h ▸ .text _
  · rintro ⟨⟩
    rfl

theorem map_some_text?_eq_some_iff {s : Option String} :
    (text? v).map some = some s ↔ Says v (.choice s) := by
  constructor
  · intro h
    obtain ⟨t, ht, rfl⟩ := Option.map_eq_some_iff.mp h
    obtain ⟨⟩ := text?_eq_some_iff.mp ht
    exact .choice t
  · rintro ⟨⟩
    rfl

theorem flag?_eq_some_iff {b : Bool} : flag? v = some b ↔ Says v (.flag b) := by
  constructor
  · intro h
    cases v <;> simp only [flag?, Option.some.injEq, reduceCtorEq] at h
    exact h ▸ .flag _
  · rintro ⟨⟩
    rfl

/-- An integer of 64 bits that is not negative is a word. -/
theorem hours?_eq_some_iff {n : UInt64} (hv : v.WellFormed) :
    hours? v = some n ↔ Says v (.hours n) := by
  constructor
  · intro h
    cases hv with
    | @integer k hk =>
      have hmax := hk.2
      by_cases hpos : 0 ≤ k
      · rw [hours?, if_pos hpos] at h
        have hn : n.toNat = k.toNat := by
          rw [← Option.some.inj h]
          exact UInt64.toNat_ofNat_of_lt' (by rw [UInt64.size]; omega)
        have hk : ((n.toNat : Nat) : Int) = k := by rw [hn, Int.toNat_of_nonneg hpos]
        exact hk ▸ .hours n
      · rw [hours?, if_neg hpos] at h
        exact absurd h nofun
    | _ => exact absurd h (by simp [hours?])
  · rintro ⟨⟩
    rw [hours?, if_pos (Int.natCast_nonneg _), Int.toNat_natCast, UInt64.ofNat_toNat]

theorem textEntries?_eq_some_iff {es : List (String × Toml)} {entries : List (String × String)} :
    textEntries? es = some entries ↔ es = entries.map fun e => (e.1, .text e.2) := by
  induction es generalizing entries with
  | nil =>
    cases entries with
    | nil => exact iff_of_true rfl rfl
    | cons e entries => exact iff_of_false nofun nofun
  | cons e es ih =>
    obtain ⟨key, v⟩ := e
    constructor
    · intro h
      obtain ⟨s, hs, h⟩ := Option.bind_eq_some_iff.mp h
      obtain ⟨rest, hrest, hr⟩ := Option.bind_eq_some_iff.mp h
      obtain ⟨⟩ := text?_eq_some_iff.mp hs
      rw [← Option.some.inj hr, ih.mp hrest, List.map_cons]
    · intro h
      cases entries with
      | nil => exact absurd h nofun
      | cons e entries =>
        obtain ⟨he, hes⟩ := List.cons.inj h
        obtain ⟨rfl, rfl⟩ := Prod.mk.inj he
        rw [textEntries?, ih.mpr hes]
        rfl

theorem texts?_eq_some_iff {entries : List (String × String)} :
    texts? v = some entries ↔ Says v (.texts entries) := by
  constructor
  · intro h
    cases v with
    | table es =>
      rw [textEntries?_eq_some_iff.mp h]
      exact .texts entries
    | moment m =>
      rw [← Option.some.inj h]
      exact .moment m
    | _ => exact absurd h nofun
  · intro h
    cases h with
    | texts => exact textEntries?_eq_some_iff.mpr rfl
    | moment => rfl

end Readers

/-! ## Sections -/

namespace Values

/-- All values of a section are well formed. -/
def WellFormed (vs : Values) : Prop := ∀ place key v, vs.find? place key = some v → v.WellFormed

/-- A section sets something to what a configuration has, or the configuration has the default and
the section does not set it. -/
def Gives (vs : Values) (s : Setting) (c : Config) : Prop :=
  (vs.find? s.place s.key = none ∧ s.field c = s.field {}) ∨
    ∃ v, vs.find? s.place s.key = some v ∧ Says v (s.field c)

theorem wellFormed_of? {o : Option Toml} (h : ∀ v, o = some v → v.WellFormed) {vs : Values}
    (hvs : of? o = some vs) : vs.WellFormed := by
  have hnone : WellFormed (byKey []) := fun _ _ _ h => absurd h nofun
  unfold of? at hvs
  split at hvs
  next => exact Option.some.inj hvs ▸ hnone
  next =>
    obtain rfl := Option.some.inj hvs
    cases h _ rfl with
    | table hkeys hes => exact fun _ _ v hv => hes _ (Toml.mem_of_found hv)
  next =>
    obtain rfl := Option.some.inj hvs
    cases h _ rfl with
    | list hitems => exact fun place _ v hv => hitems v (List.mem_of_getElem? hv)
  next => exact Option.some.inj hvs ▸ hnone
  next => exact absurd hvs nofun

section Gives

variable {vs : Values} {c : Config} (s : Setting)

/-- A reader of the values that say a field, with the default that the setting has, gives the
setting. -/
theorem get?_eq_some_iff {α : Type} {x default : α} {read : Toml → Option α} {wrap : α → Field}
    (hwrap : ∀ {a b}, wrap a = wrap b → a = b) (hx : s.field c = wrap x)
    (hdefault : s.field {} = wrap default)
    (hread : ∀ v, vs.find? s.place s.key = some v → (read v = some x ↔ Says v (wrap x))) :
    vs.get? s.place s.key default read = some x ↔ vs.Gives s c := by
  unfold get? Gives
  rw [hx, hdefault]
  cases hfind : vs.find? s.place s.key with
  | none =>
    have hsame : default = x ↔ wrap x = wrap default :=
      ⟨fun h => congrArg wrap h.symm, fun h => (hwrap h).symm⟩
    simp [hsame]
  | some v => simp [hread v hfind]

theorem get?_text_iff {x default : String} (hx : s.field c = .text x)
    (hdefault : s.field {} = .text default) :
    vs.get? s.place s.key default text? = some x ↔ vs.Gives s c :=
  get?_eq_some_iff s Field.text.inj hx hdefault fun _ _ => text?_eq_some_iff

end Gives

end Values

section Sections

variable {vs : Values} {c : Config}

theorem server?_eq_some_iff :
    server? vs = some c.server ↔ vs.Gives .bind c ∧ vs.Gives .dbPath c := by
  rw [← Values.get?_text_iff .bind rfl rfl, ← Values.get?_text_iff .dbPath rfl rfl]
  cases c.server
  simp [server?, Option.bind_eq_some_iff, Setting.place, Setting.key]

theorem tunnel?_eq_some_iff : tunnel? vs = some c.tunnel ↔ vs.Gives .proxyUrl c := by
  rw [← Values.get?_eq_some_iff .proxyUrl Field.choice.inj rfl rfl
    fun _ _ => map_some_text?_eq_some_iff]
  cases c.tunnel
  simp [tunnel?, Option.bind_eq_some_iff, Setting.place, Setting.key]

theorem probe?_eq_some_iff : probe? vs = some c.probe ↔ vs.Gives .ipCheckUrl c ∧
    vs.Gives .seenIpUrl c ∧ vs.Gives .asnLookupUrl c ∧ vs.Gives .egressSpeedUrl c := by
  rw [← Values.get?_text_iff .ipCheckUrl rfl rfl, ← Values.get?_text_iff .seenIpUrl rfl rfl,
    ← Values.get?_text_iff .asnLookupUrl rfl rfl, ← Values.get?_text_iff .egressSpeedUrl rfl rfl]
  cases c.probe
  simp [probe?, Option.bind_eq_some_iff, Setting.place, Setting.key]

theorem upstream?_eq_some_iff : upstream? vs = some c.upstream ↔ vs.Gives .name c ∧
    vs.Gives .host c ∧ vs.Gives .healthUrl c ∧ vs.Gives .speedUrl c ∧ vs.Gives .tokens c := by
  rw [← Values.get?_text_iff .name rfl rfl, ← Values.get?_text_iff .host rfl rfl,
    ← Values.get?_text_iff .healthUrl rfl rfl, ← Values.get?_text_iff .speedUrl rfl rfl,
    ← Values.get?_eq_some_iff .tokens Field.texts.inj rfl rfl fun _ _ => texts?_eq_some_iff]
  cases c.upstream
  simp [upstream?, Option.bind_eq_some_iff, Setting.place, Setting.key]

theorem retention?_eq_some_iff (h : vs.WellFormed) :
    retention? vs = some c.retention ↔ vs.Gives .maxAgeHours c := by
  rw [← Values.get?_eq_some_iff .maxAgeHours Field.hours.inj rfl rfl
    fun _ hv => hours?_eq_some_iff (h _ _ _ hv)]
  cases c.retention
  simp [retention?, Option.bind_eq_some_iff, Setting.place, Setting.key]

theorem logging?_eq_some_iff :
    logging? vs = some c.logging ↔ vs.Gives .level c ∧ vs.Gives .json c := by
  rw [← Values.get?_text_iff .level rfl rfl,
    ← Values.get?_eq_some_iff .json Field.flag.inj rfl rfl fun _ _ => flag?_eq_some_iff]
  cases c.logging
  simp [logging?, Option.bind_eq_some_iff, Setting.place, Setting.key]

end Sections

/-! ## Documents -/

/-- A document sets something to what a configuration has, or the configuration has the default and
the document does not set it. -/
def Given (doc : List (String × Toml)) (s : Setting) (c : Config) : Prop :=
  ∃ vs, Values.of? (Toml.find? s.part doc) = some vs ∧ vs.Gives s c

theorem Setting.forall_iff {P : Setting → Prop} : (∀ s, P s) ↔
    (P .bind ∧ P .dbPath) ∧ P .proxyUrl ∧
    (P .ipCheckUrl ∧ P .seenIpUrl ∧ P .asnLookupUrl ∧ P .egressSpeedUrl) ∧
    (P .name ∧ P .host ∧ P .healthUrl ∧ P .speedUrl ∧ P .tokens) ∧
    P .maxAgeHours ∧ P .level ∧ P .json := by
  constructor
  · intro h
    exact ⟨⟨h _, h _⟩, h _, ⟨h _, h _, h _, h _⟩, ⟨h _, h _, h _, h _, h _⟩, h _, h _, h _⟩
  · rintro ⟨⟨_, _⟩, _, ⟨_, _, _, _⟩, ⟨_, _, _, _, _⟩, _, _, _⟩ s
    cases s <;> assumption

/-- A section is read exactly if its values are there and give what the reader asks of them. -/
theorem read_section_eq_some_iff {α : Type} {doc : List (String × Toml)}
    (hdoc : Toml.WellFormed (.table doc)) {part : String} {read : Values → Option α} {x : α}
    {P : Values → Prop} (h : ∀ vs, vs.WellFormed → (read vs = some x ↔ P vs)) :
    (section? doc part read = some x) ↔
      ∃ vs, Values.of? (Toml.find? part doc) = some vs ∧ P vs := by
  unfold section?
  rw [Option.bind_eq_some_iff]
  refine exists_congr fun vs => and_congr_right fun hvs => h vs ?_
  exact Values.wellFormed_of? (fun v hv => hdoc.of_mem (Toml.mem_of_found hv)) hvs

theorem exists_some_and_iff {α : Type} {o : Option α} {P Q : α → Prop} :
    (∃ a, o = some a ∧ P a ∧ Q a) ↔ (∃ a, o = some a ∧ P a) ∧ ∃ a, o = some a ∧ Q a := by
  cases o <;> simp

/-- A document reads as a configuration exactly if every setting is given, one by one. -/
theorem ofToml?_eq_some_iff {doc : List (String × Toml)} (hdoc : Toml.WellFormed (.table doc))
    {c : Config} : ofToml? doc = some c ↔ ∀ s, Given doc s c := by
  have hsections : ofToml? doc = some c ↔
      (section? doc "server" server? = some c.server) ∧
      (section? doc "tunnel" tunnel? = some c.tunnel) ∧
      (section? doc "probe" probe? = some c.probe) ∧
      (section? doc "upstream" upstream? = some c.upstream) ∧
      (section? doc "retention" retention? = some c.retention) ∧
      (section? doc "logging" logging? = some c.logging) := by
    cases c
    simp [ofToml?, Option.bind_eq_some_iff]
  rw [hsections, Setting.forall_iff,
    read_section_eq_some_iff hdoc fun _ _ => server?_eq_some_iff,
    read_section_eq_some_iff hdoc fun _ _ => tunnel?_eq_some_iff,
    read_section_eq_some_iff hdoc fun _ _ => probe?_eq_some_iff,
    read_section_eq_some_iff hdoc fun _ _ => upstream?_eq_some_iff,
    read_section_eq_some_iff hdoc fun _ => retention?_eq_some_iff,
    read_section_eq_some_iff hdoc fun _ _ => logging?_eq_some_iff]
  simp only [exists_some_and_iff]
  exact Iff.rfl

end EgressWatch.Config
