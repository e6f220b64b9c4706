import EgressWatch.Proofs.Config.Settings
import EgressWatch.Proofs.Toml.Equality

/-!
# Partial configurations

A document overrides exactly what it names. The defaults stand on two levels, for a section that is
missing and for a key that is missing in its section, and both come to the same: a setting follows
the document if it is what the document sets it to, or has its default where the document does not
set it (`Follows`).

Both sides of this are stated without the reader. What a document sets is membership in its tables
(`Sets`), and what a setting can be set to is told by its type (`Admits`). The bridge from `Given`,
which the reader is known by, has three cases according to what stands where the section should be:
a table or nothing (`given_iff_follows`), something in which the key is set (`given_iff_of_sets`),
or a single value, which gives nothing (`not_given_of_isScalar`).

`partial_overrides` puts them together in both directions. A document that sets what it sets to
values that are admitted has a configuration for each setting, and since settings are independent of
each other these make one configuration (`assemble`, `exists_follows`). One setting that nothing can
give makes the whole fail (`load_eq_malformed`). What else stands in the document has no effect, for
documents that agree on the settings give the same (`Agree.ofToml?_eq`).

There is one value that no type has and that is taken all the same: a moment where a table of texts
is wanted is read as a table with one entry (`moment_read_as_token`).
-/

namespace EgressWatch.Config

/-! ## What a document sets -/

/-- A table of values. -/
def IsTable (v : Toml) : Prop := ∃ entries, v = .table entries

/-- A single text, number or flag. -/
inductive IsScalar : Toml → Prop
  | text (s : String) : IsScalar (.text s)
  | integer (n : Int) : IsScalar (.integer n)
  | real (x : Float) : IsScalar (.real x)
  | flag (b : Bool) : IsScalar (.flag b)

/-- A document sets something to a value, under its key in its section. -/
def Sets (doc : List (String × Toml)) (s : Setting) (v : Toml) : Prop :=
  ∃ entries, (s.part, .table entries) ∈ doc ∧ (s.key, v) ∈ entries

/-- A setting of a configuration is what the document sets it to, or else its default. -/
def Follows (doc : List (String × Toml)) (c : Config) (s : Setting) : Prop :=
  (∃ v, Sets doc s v ∧ Says v (s.field c)) ∨ ((∀ v, ¬ Sets doc s v) ∧ s.field c = s.field {})

/-- All sections that are there are tables. -/
def Tabular (doc : List (String × Toml)) : Prop := ∀ (s : Setting) v, (s.part, v) ∈ doc → IsTable v

/-- Two documents agree on what is known: they set the same, and the same sections are no tables. -/
structure Agree (doc doc' : List (String × Toml)) : Prop where
  sets : ∀ s v, Sets doc s v ↔ Sets doc' s v
  parts : ∀ (s : Setting) v, ¬ IsTable v → ((s.part, v) ∈ doc ↔ (s.part, v) ∈ doc')

section Documents

variable {doc doc' : List (String × Toml)} {s : Setting} {v : Toml} {c : Config}

theorem Sets.wellFormed (hdoc : Toml.WellFormed (.table doc)) (h : Sets doc s v) :
    v.WellFormed := by
  obtain ⟨entries, hpart, hkey⟩ := h
  exact (hdoc.of_mem hpart).of_mem hkey

/-- In a section that is a table, what the document sets is what is found there. -/
theorem sets_iff_find? (hdoc : Toml.WellFormed (.table doc)) {entries : List (String × Toml)}
    (hpart : (s.part, .table entries) ∈ doc) :
    Sets doc s v ↔ Toml.find? s.key entries = some v := by
  rw [(hdoc.of_mem hpart).find?_eq_some_iff]
  constructor
  · rintro ⟨others, hothers, hkey⟩
    have hsame : some (Toml.table others) = some (Toml.table entries) := by
      rw [← hdoc.find?_eq_some_iff.mpr hothers, hdoc.find?_eq_some_iff.mpr hpart]
    exact Toml.table.inj (Option.some.inj hsame) ▸ hkey
  · exact fun hkey => ⟨entries, hpart, hkey⟩

theorem given_iff_gives (hdoc : Toml.WellFormed (.table doc)) {vs : Values}
    (hpart : (s.part, v) ∈ doc) (hvs : Values.of? (some v) = some vs) :
    Given doc s c ↔ vs.Gives s c := by
  unfold Given
  rw [hdoc.find?_eq_some_iff.mpr hpart, hvs]
  simp

/-- Where a section is missing or a table, a setting is given exactly if it follows the
document. -/
theorem given_iff_follows (hdoc : Toml.WellFormed (.table doc))
    (htable : ∀ v, (s.part, v) ∈ doc → IsTable v) : Given doc s c ↔ Follows doc c s := by
  cases hpart : Toml.find? s.part doc with
  | none =>
    have hnot : ∀ v, ¬ Sets doc s v := by
      rintro v ⟨entries, hmem, -⟩
      rw [← hdoc.find?_eq_some_iff, hpart] at hmem
      exact absurd hmem nofun
    have hempty : (Values.byKey []).find? s.place s.key = none := rfl
    rw [Given, hpart]
    simp [Values.of?, Values.Gives, hempty, Follows, hnot]
  | some v =>
    have hmem := hdoc.find?_eq_some_iff.mp hpart
    obtain ⟨entries, rfl⟩ := htable v hmem
    rw [given_iff_gives hdoc hmem rfl]
    simp only [Values.Gives, Follows, sets_iff_find? hdoc hmem, Values.find?,
      Option.eq_none_iff_forall_ne_some]
    exact or_comm

/-- What a document sets has to say what the configuration has. -/
theorem given_iff_of_sets (hdoc : Toml.WellFormed (.table doc)) (hset : Sets doc s v) :
    Given doc s c ↔ Says v (s.field c) := by
  obtain ⟨entries, hpart, hkey⟩ := id hset
  have hfind := (sets_iff_find? hdoc hpart).mp hset
  rw [given_iff_gives hdoc hpart rfl]
  simp [Values.Gives, Values.find?, hfind]

/-- A section that is a single value gives nothing. -/
theorem not_given_of_isScalar (hdoc : Toml.WellFormed (.table doc)) (hpart : (s.part, v) ∈ doc)
    (hv : IsScalar v) : ¬ Given doc s c := by
  rintro ⟨vs, hvs, -⟩
  rw [hdoc.find?_eq_some_iff.mpr hpart] at hvs
  cases hv <;> exact absurd hvs nofun

/-- Documents that agree give the same. Where the section of a setting is no table it is the same in
both, and else what is given follows what is set. -/
theorem Agree.given_iff (h : Agree doc doc') (hdoc : Toml.WellFormed (.table doc))
    (hdoc' : Toml.WellFormed (.table doc')) : Given doc s c ↔ Given doc' s c := by
  by_cases htable : ∀ v, (s.part, v) ∈ doc → IsTable v
  · have htable' : ∀ v, (s.part, v) ∈ doc' → IsTable v := fun v hv => by
      by_contra hnot
      exact hnot (htable v ((h.parts s v hnot).mpr hv))
    rw [given_iff_follows hdoc htable, given_iff_follows hdoc' htable']
    simp only [Follows, h.sets]
  · push Not at htable
    obtain ⟨v, hv, hnot⟩ := htable
    unfold Given
    rw [hdoc.find?_eq_some_iff.mpr hv,
      hdoc'.find?_eq_some_iff.mpr ((h.parts s v hnot).mp hv)]

theorem Agree.ofToml?_eq (h : Agree doc doc') (hdoc : Toml.WellFormed (.table doc))
    (hdoc' : Toml.WellFormed (.table doc')) : ofToml? doc = ofToml? doc' := by
  refine Option.ext fun c => ?_
  rw [ofToml?_eq_some_iff hdoc, ofToml?_eq_some_iff hdoc']
  exact forall_congr' fun s => h.given_iff hdoc hdoc'

end Documents

/-! ## Values that settings take -/

namespace Setting

/-- The values of the type that a setting is declared with. -/
def Takes : Setting → Toml → Prop
  | tokens, v =>
    ∃ entries : List (String × String), v = .table (entries.map fun e => (e.1, .text e.2))
  | maxAgeHours, v => ∃ n : Nat, v = .integer n
  | json, v => ∃ b, v = .flag b
  | _, v => ∃ t, v = .text t

/-- The values that a setting can be set to: those of its type, and for a table of texts also a
moment. -/
def Admits (s : Setting) (v : Toml) : Prop := s.Takes v ∨ (s = tokens ∧ ∃ m, v = .moment m)

/-- A configuration with a text everywhere. -/
def filled (t : String) : Config where
  server := ⟨t, t⟩
  tunnel := ⟨some t⟩
  probe := ⟨t, t, t, t⟩
  upstream := ⟨t, t, t, t, []⟩
  logging := ⟨t, false⟩

/-- A configuration with each setting from a configuration of its own. -/
def assemble (pick : Setting → Config) : Config where
  server := ⟨(pick bind).server.bind, (pick dbPath).server.dbPath⟩
  tunnel := (pick proxyUrl).tunnel
  probe := ⟨(pick ipCheckUrl).probe.ipCheckUrl, (pick seenIpUrl).probe.seenIpUrl,
    (pick asnLookupUrl).probe.asnLookupUrl, (pick egressSpeedUrl).probe.egressSpeedUrl⟩
  upstream := ⟨(pick name).upstream.name, (pick host).upstream.host,
    (pick healthUrl).upstream.healthUrl, (pick speedUrl).upstream.speedUrl,
    (pick tokens).upstream.tokens⟩
  retention := (pick maxAgeHours).retention
  logging := ⟨(pick level).logging.level, (pick json).logging.json⟩

theorem field_assemble (pick : Setting → Config) (s : Setting) :
    s.field (assemble pick) = s.field (pick s) := by
  cases s <;> rfl

variable {s : Setting} {v : Toml}

theorem admits_of_field {c : Config} (h : Says v (s.field c)) : s.Admits v := by
  cases s with
  | tokens =>
    generalize hf : tokens.field c = f at h
    cases h with
    | texts entries => exact .inl ⟨entries, rfl⟩
    | moment m => exact .inr ⟨rfl, m, rfl⟩
    | _ => exact absurd hf nofun
  | maxAgeHours =>
    obtain ⟨⟩ := h
    exact .inl ⟨_, rfl⟩
  | json =>
    obtain ⟨⟩ := h
    exact .inl ⟨_, rfl⟩
  | proxyUrl =>
    generalize hf : proxyUrl.field c = f at h
    cases h with
    | choice t => exact .inl ⟨t, rfl⟩
    | _ => exact absurd hf nofun
  | _ =>
    obtain ⟨⟩ := h
    exact .inl ⟨_, rfl⟩

theorem exists_field (hv : v.WellFormed) (h : s.Admits v) : ∃ c, Says v (s.field c) := by
  obtain h | ⟨rfl, m, rfl⟩ := h
  · cases s with
    | tokens =>
      obtain ⟨entries, rfl⟩ := h
      exact ⟨{ upstream := { tokens := entries } }, .texts entries⟩
    | maxAgeHours =>
      obtain ⟨n, rfl⟩ := h
      cases hv with
      | integer hn =>
        have hmax := hn.2
        have hword : (UInt64.ofNat n).toNat = n :=
          UInt64.toNat_ofNat_of_lt' (by rw [UInt64.size]; omega)
        have hhours := Says.hours (.ofNat n)
        rw [hword] at hhours
        exact ⟨{ retention := ⟨.ofNat n⟩ }, hhours⟩
    | json =>
      obtain ⟨b, rfl⟩ := h
      exact ⟨{ logging := { json := b } }, .flag b⟩
    | proxyUrl =>
      obtain ⟨t, rfl⟩ := h
      exact ⟨filled t, .choice t⟩
    | _ =>
      obtain ⟨t, rfl⟩ := h
      exact ⟨filled t, .text t⟩
  · exact ⟨{ upstream := { tokens := [(momentKey, m)] } }, .moment m⟩

end Setting

/-! ## Files -/

section Files

variable {disk : Store.Disk} {path text : String} {doc : List (String × Toml)}

/-- What a document asks for setting by setting, a configuration has all at once. -/
theorem exists_follows (hdoc : Toml.WellFormed (.table doc))
    (h : ∀ s v, Sets doc s v → s.Admits v) : ∃ c, ∀ s, Follows doc c s := by
  have hone : ∀ s, ∃ c, Follows doc c s := fun s => by
    by_cases hset : ∃ v, Sets doc s v
    · obtain ⟨v, hv⟩ := hset
      obtain ⟨c, hc⟩ := Setting.exists_field (hv.wellFormed hdoc) (h s v hv)
      exact ⟨c, .inl ⟨v, hv, hc⟩⟩
    · exact ⟨{}, .inr ⟨not_exists.mp hset, rfl⟩⟩
  choose pick hpick using hone
  refine ⟨Setting.assemble pick, fun s => ?_⟩
  rw [Follows, Setting.field_assemble]
  exact hpick s

theorem load_eq_of_read? (hfile : disk.read? path = some text)
    (hdoc : Toml.read? text = some doc) :
    load disk path = (ofToml? doc).elim (.error (.malformed path)) .ok := by
  have hread : read? text = ofToml? doc := by rw [read?, hdoc, Option.bind_some]
  rw [load, hfile]
  cases h : ofToml? doc <;> simp [hread, h]

/-- A document with a setting that nothing gives does not load. -/
theorem load_eq_malformed (hfile : disk.read? path = some text)
    (hdoc : Toml.read? text = some doc) {s : Setting} (h : ∀ c, ¬ Given doc s c) :
    load disk path = .error (.malformed path) := by
  have hnone : ofToml? doc = none := by
    refine Option.eq_none_iff_forall_ne_some.mpr fun c hc => h c ?_
    exact (ofToml?_eq_some_iff (Toml.wellFormed_of_read? hdoc)).mp hc s
  rw [load_eq_of_read? hfile hdoc, hnone]
  rfl

/-- A file overrides exactly what it names: if its sections are tables and every setting that it
sets takes the value, it loads as the one configuration that follows it. A setting that does not
take its value and a section that is a single value make it fail, whatever else stands in the file,
and what stands in it beyond the settings has no effect. -/
theorem partial_overrides (hfile : disk.read? path = some text)
    (hdoc : Toml.read? text = some doc) :
    (Tabular doc → (∀ s v, Sets doc s v → s.Admits v) →
      ∃ c, load disk path = .ok c ∧ (∀ s, Follows doc c s) ∧
        ∀ c', (∀ s, Follows doc c' s) → c' = c) ∧
    (∀ s v, Sets doc s v → ¬ s.Admits v → load disk path = .error (.malformed path)) ∧
    (∀ (s : Setting) v, (s.part, v) ∈ doc → IsScalar v →
      load disk path = .error (.malformed path)) ∧
    ∀ disk' text' doc', Store.Disk.read? disk' path = some text' →
      Toml.read? text' = some doc' → Agree doc doc' → load disk' path = load disk path := by
  have hwf := Toml.wellFormed_of_read? hdoc
  refine ⟨?loads, ?type, ?scalar, ?unknown⟩
  case loads =>
    intro htabular hadmits
    have hfollows : ∀ {c}, ofToml? doc = some c ↔ ∀ s, Follows doc c s := by
      intro c
      rw [ofToml?_eq_some_iff hwf]
      exact forall_congr' fun s => given_iff_follows hwf (htabular s)
    obtain ⟨c, hc⟩ := exists_follows hwf hadmits
    have hread := hfollows.mpr hc
    refine ⟨c, ?_, hc, fun c' hc' => ?_⟩
    · rw [load_eq_of_read? hfile hdoc, hread]
      rfl
    · exact Option.some.inj ((hfollows.mpr hc').symm.trans hread)
  case type =>
    intro s v hset hnot
    have hgiven : ∀ c, ¬ Given doc s c := fun c hc =>
      hnot (Setting.admits_of_field ((given_iff_of_sets hwf hset).mp hc))
    exact load_eq_malformed hfile hdoc hgiven
  case scalar =>
    intro s v hpart hv
    exact load_eq_malformed hfile hdoc fun c => not_given_of_isScalar hwf hpart hv
  case unknown =>
    intro disk' text' doc' hfile' hdoc' hagree
    rw [load_eq_of_read? hfile hdoc, load_eq_of_read? hfile' hdoc',
      hagree.ofToml?_eq hwf (Toml.wellFormed_of_read? hdoc')]

/-- A proxy and a token, then the same beside keys and a section that mean nothing, a text where a
flag is wanted, and a flag where a section is wanted. -/
theorem partial_overrides_proxy_and_token :
    let path := "/tunnelmon.toml"
    let disk (text : String) : Store.Disk := { entries := [(["tunnelmon.toml"], .text text)] }
    let named := "[tunnel]\nproxy_url = \"http://a:1\"\n[upstream.tokens]\n\"*\" = \"abc\"\n"
    let more := "[tunnel]\nproxy = 1\nproxy_url = \"http://a:1\"\n" ++
      "[upstream.tokens]\n\"*\" = \"abc\"\n[colors]\nlevel = []\n"
    load (disk named) path = .ok { tunnel := { proxyUrl := some "http://a:1" },
                                   upstream := { tokens := [("*", "abc")] } } ∧
      load (disk more) path = load (disk named) path ∧
      load (disk "[logging]\njson = \"yes\"\n") path = .error (.malformed path) ∧
      load (disk "server = true\n") path = .error (.malformed path) := by
  intro path disk named more
  have hplace : Store.Place.ofPath [] path = ["tunnelmon.toml"] := by decide +kernel
  have hfile : ∀ text, (disk text).read? path = some text := by
    simp [Store.Disk.read?, Store.Disk.find?, disk, hplace]
  let proxy := Toml.table [("proxy_url", .text "http://a:1")]
  let token := Toml.table [("tokens", .table [("*", .text "abc")])]
  have hnamed : Toml.read? named = some [("tunnel", proxy), ("upstream", token)] := by
    decide +kernel
  have hmore : Toml.read? more = some
      [("tunnel", .table [("proxy", .integer 1), ("proxy_url", .text "http://a:1")]),
        ("upstream", token), ("colors", .table [("level", .list [])])] := by
    decide +kernel
  have hflag : Toml.read? "[logging]\njson = \"yes\"\n" =
      some [("logging", .table [("json", .text "yes")])] := by
    decide +kernel
  have hpart : Toml.read? "server = true\n" = some [("server", .flag true)] := by decide +kernel
  obtain ⟨hloads, -, -, hunknown⟩ := partial_overrides (hfile named) hnamed
  obtain ⟨-, htype, -, -⟩ := partial_overrides (hfile _) hflag
  obtain ⟨-, -, hscalar, -⟩ := partial_overrides (hfile _) hpart
  have hsets : ∀ s v, Sets [("tunnel", proxy), ("upstream", token)] s v ↔
      (s = .proxyUrl ∧ v = .text "http://a:1") ∨
        (s = .tokens ∧ v = .table [("*", .text "abc")]) := by
    intro s v
    cases s <;> simp [Sets, Setting.part, Setting.key, proxy, token]
  refine ⟨?named, ?more, ?flag, ?part⟩
  case named =>
    have htabular : Tabular [("tunnel", proxy), ("upstream", token)] := by
      intro s v hv
      simp only [List.mem_cons, Prod.mk.injEq, List.not_mem_nil, or_false] at hv
      obtain ⟨-, rfl⟩ | ⟨-, rfl⟩ := hv
      · exact ⟨_, rfl⟩
      · exact ⟨_, rfl⟩
    have hadmits : ∀ s v, Sets [("tunnel", proxy), ("upstream", token)] s v → s.Admits v := by
      intro s v hv
      obtain ⟨rfl, rfl⟩ | ⟨rfl, rfl⟩ := (hsets s v).mp hv
      · exact .inl ⟨_, rfl⟩
      · exact .inl ⟨[("*", "abc")], rfl⟩
    obtain ⟨c, hload, -, hone⟩ := hloads htabular hadmits
    refine hload.trans (congrArg Except.ok (hone _ fun s => ?_).symm)
    cases s
    case proxyUrl => exact .inl ⟨_, (hsets _ _).mpr (.inl ⟨rfl, rfl⟩), .choice _⟩
    case tokens => exact .inl ⟨_, (hsets _ _).mpr (.inr ⟨rfl, rfl⟩), .texts [("*", "abc")]⟩
    all_goals exact .inr ⟨by simp [hsets], rfl⟩
  case more =>
    refine hunknown _ _ _ (hfile more) hmore ⟨fun s v => ?_, fun s v hv => ?_⟩
    · rw [hsets]
      cases s <;> simp [Sets, Setting.part, Setting.key, token]
    · have hcolors : s.part ≠ "colors" := by cases s <;> decide
      simp only [IsTable, not_exists] at hv
      simp [hv, hcolors, proxy, token]
  case flag =>
    refine htype .json (.text "yes") ⟨_, .head _, .head _⟩ ?_
    simp [Setting.Admits, Setting.Takes]
  case part => exact hscalar .bind _ (.head _) (.flag true)

/-- A day where a table of tokens is wanted is no table of texts, yet it is read as a token. -/
theorem moment_read_as_token :
    let path := "/tunnelmon.toml"
    let text := "[upstream]\ntokens = 1979-05-27\n"
    let disk : Store.Disk := { entries := [(["tunnelmon.toml"], .text text)] }
    let doc := [("upstream", Toml.table [("tokens", .moment "1979-05-27")])]
    Toml.read? text = some doc ∧ Sets doc .tokens (.moment "1979-05-27") ∧
      ¬ Setting.tokens.Takes (.moment "1979-05-27") ∧
      load disk path =
        .ok { upstream := { tokens := [("$__toml_private_datetime", "1979-05-27")] } } := by
  intro path text disk doc
  have hread : Toml.read? text = some doc := by decide +kernel
  refine ⟨hread, ⟨_, .head _, .head _⟩, nofun, ?_⟩
  rw [load_eq_of_read? (by decide +kernel) hread]
  decide +kernel

end Files

end EgressWatch.Config
