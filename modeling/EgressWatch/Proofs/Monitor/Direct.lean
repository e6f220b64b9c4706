import EgressWatch.Proofs.Monitor.Activity
import EgressWatch.Proofs.Store.Numbers

/-!
# Monitors without a tunnel

Without a proxy both lookups of a check go out directly, to one echo service. As long as that tells
one address, whenever it tells any (`TellsOnly`), a status can call the tunnel active in one way
only: no lookup of the machine's address has succeeded yet, and that of the tunnel's has
(`ActiveUnknown`). An address that has been found is kept, so there is an end to this with the first
probe that finds the machine's address.

The rule is about a whole run, since what is kept from one probe to the next decides what a later
one finds. A run is a list of demands that are met one after the other at a `Site`, a monitor with
its database and with all that was found there so far:

> `Unproxied address ip d site`: the resolver knows nothing but `ip`, each status that was found or
> is remembered follows the rule, each finding that tells an address tells `ip`, and the rows of the
> database are those of `d` and of what was kept.

A resolver that `AsksDirectly` stays one, whether a lookup fails or not (`AsksDirectly.machineIp`),
and a check by such a resolver follows the rule (`AsksDirectly.activeUnknown`). Every step adds one
finding (`Unproxied.add`, `Unproxied.perform`), and `Unproxied.run` goes through the demands.
`inactive_without_tunnel` reads off what holds at the end, and `active_without_tunnel` shows that
the exception is one: on a network that loses a request, a tunnel that is not there is active.
-/

namespace EgressWatch.Monitor

open Net Probe Store Time

/-! ## Runs -/

/-- What is asked of a monitor, and whether what it finds is kept in the database. -/
inductive Demand where
  | status (keep : Bool)
  | speedTest (token : Option String) (keep : Bool)
  | machineIp

/-- What a monitor has found. -/
inductive Finding where
  | snapshot (s : Snapshot)
  | address (ip : String)

/-- The machine's address as a finding tells it, empty if it tells none. -/
def Finding.machineIp : Finding → String
  | snapshot (.status s) => s.machineIp
  | snapshot (.speedTest t) => (t.localEgress.map (·.sourceIp)).getD ""
  | address ip => ip

/-- A monitor and a database, with all that has been found so far. -/
structure Site where
  monitor : Monitor
  database : Database
  found : List Finding := []

namespace Site

/-- The database after a snapshot was found that may be kept. -/
def kept (site : Site) (keep : Bool) (draws : Draws) (s : Snapshot) : Database :=
  if keep then site.database.keep draws s else site.database

/-- Does what is asked for. -/
def perform (site : Site) : Demand → Action Site
  | .status keep => do
    let (s, monitor) ← site.monitor.probeStatus
    let draws ← readDraws
    return ⟨monitor, site.kept keep draws (.status s), site.found ++ [.snapshot (.status s)]⟩
  | .speedTest token keep => do
    let (t, monitor) ← site.monitor.probeSpeedTest token
    let draws ← readDraws
    return ⟨monitor, site.kept keep draws (.speedTest t), site.found ++ [.snapshot (.speedTest t)]⟩
  | .machineIp => do
    let (ip, monitor) ← site.monitor.machineIp
    return ⟨monitor, site.database, site.found ++ [.address ip]⟩

end Site

/-- The echo service at an address tells one address to whom it tells any, whatever was sent before
and however often it fails. -/
def TellsOnly (env : Environment) (address ip : String) : Prop :=
  ∀ trail found, (askEcho .direct address env trail).1 = .ok found → found = ip

/-- The tunnel is active exactly if an address was found for it while that of the machine is
unknown. -/
def ActiveUnknown (s : Status) : Prop :=
  s.tunnelActive = true ↔ s.machineIp = "" ∧ s.tunnelIp ≠ ""

theorem ActiveUnknown.inactive {s : Status} (h : ActiveUnknown s) (hknown : s.machineIp ≠ "") :
    s.tunnelActive = false :=
  Bool.eq_false_iff.mpr fun hactive => hknown (h.mp hactive).1

/-! ## Resolvers without a tunnel -/

/-- A resolver asks directly for both addresses, and the one that it may have kept is the one that
the service tells. -/
structure AsksDirectly (r : Resolver) (address ip : String) : Prop where
  source : r.source = .echo address .direct
  machine : ∀ found, r.machine = some found → found = ip ∧ found ≠ ""

section Resolving

variable {r : Resolver} {env : Environment} {address ip : String}

/-- Either the address is known afterwards, or it was not known before and nothing has changed. -/
theorem AsksDirectly.machineIp_cases (h : AsksDirectly r address ip)
    (htells : TellsOnly env address ip) (trail : Trail) :
    (ip ≠ "" ∧ (r.machineIp env trail).1 = (ip, { r with machine := some ip })) ∨
    (r.machine = none ∧ (r.machineIp env trail).1 = ("", r)) := by
  rcases Resolver.machineIp_cases h.source env trail with
    ⟨found, hmachine, heq⟩ | ⟨-, found, hask, heq⟩ | ⟨hnone, fault, -, heq⟩
  · obtain ⟨rfl, hne⟩ := h.machine found hmachine
    rw [heq, ← hmachine]
    exact .inl ⟨hne, rfl⟩
  · have hne := ne_empty_of_askEcho hask
    obtain rfl : found = ip := htells trail found hask
    rw [heq]
    exact .inl ⟨hne, rfl⟩
  · rw [heq]
    exact .inr ⟨hnone, rfl⟩

/-- Asking for the machine's address keeps the resolver as it has to be and forgets nothing, and an
address that is told is known from then on. -/
theorem AsksDirectly.machineIp (h : AsksDirectly r address ip) (htells : TellsOnly env address ip)
    (trail : Trail) :
    AsksDirectly (r.machineIp env trail).1.2 address ip ∧
    (r.machine = some ip → (r.machineIp env trail).1.2.machine = some ip ∧
      (r.machineIp env trail).1.1 = ip) ∧
    ((r.machineIp env trail).1.1 ≠ "" → (r.machineIp env trail).1.1 = ip ∧
      (r.machineIp env trail).1.2.machine = some ip) := by
  rcases h.machineIp_cases htells trail with ⟨hne, heq⟩ | ⟨hnone, heq⟩
  · rw [heq]
    refine ⟨⟨h.source, ?_⟩, fun _ => ⟨rfl, rfl⟩, fun _ => ⟨rfl, rfl⟩⟩
    rintro found ⟨⟩
    exact ⟨rfl, hne⟩
  · rw [heq, hnone]
    exact ⟨h, fun hknown => absurd hknown (by simp), fun hne => absurd rfl hne⟩

end Resolving

/-- The two lookups of a check tell one address if they tell any. -/
theorem AsksDirectly.activeUnknown {m : Monitor} {env : Environment} {address ip : String}
    (h : AsksDirectly m.resolver address ip) (htells : TellsOnly env address ip) (trail : Trail) :
    ActiveUnknown (m.probeStatus env trail).1.1 := by
  obtain ⟨hdirect, -, hmachine⟩ := h.machineIp htells trail
  have htunnel : (m.probeStatus env trail).1.1.tunnelIp ≠ "" →
      (m.probeStatus env trail).1.1.tunnelIp = ip := by
    rw [tunnelIp_probeStatus, Resolver.tunnelIp_echo hdirect.source]
    cases hask : (askEcho .direct address env (m.resolver.machineIp env trail).2).1 with
    | error fault => exact fun hne => absurd rfl hne
    | ok found => exact fun _ => htells _ found hask
  unfold ActiveUnknown
  rw [tunnelActive_probeStatus, tunnelIsActive_iff]
  constructor
  · rintro ⟨hne, hdiffer⟩
    refine ⟨?_, hne⟩
    by_contra hfound
    exact hdiffer ((htunnel hne).trans (hmachine hfound).1.symm)
  · rintro ⟨hunknown, hne⟩
    exact ⟨hne, hunknown ▸ hne⟩

/-! ## Steps -/

/-- What holds of a site without a tunnel at every point of a run from a database `d`. -/
structure Unproxied (address ip : String) (d : Database) (site : Site) : Prop where
  direct : AsksDirectly site.monitor.resolver address ip
  active : ∀ s, .snapshot (.status s) ∈ site.found → ActiveUnknown s
  known : ∀ f ∈ site.found, f.machineIp ≠ "" →
    f.machineIp = ip ∧ site.monitor.resolver.machine = some ip
  stays : site.found.Pairwise fun f later => f.machineIp ≠ "" →
    ∀ s, later = .snapshot (.status s) → s.machineIp = f.machineIp
  cached : ∀ s, site.monitor.lastStatus = some s → .snapshot (.status s) ∈ site.found
  kept : ∃ es : List (Int × Snapshot), site.database.rows.Perm (d.rows ++ es.map rowOf) ∧
    ∀ e ∈ es, .snapshot e.2 ∈ site.found

section Steps

variable {address ip : String} {d : Database} {site : Site} {env : Environment}

/-- A step adds one finding. -/
theorem Unproxied.add (h : Unproxied address ip d site) {monitor : Monitor} {database : Database}
    {f : Finding} (hdirect : AsksDirectly monitor.resolver address ip)
    (hkeeps : site.monitor.resolver.machine = some ip → monitor.resolver.machine = some ip)
    (hknown : f.machineIp ≠ "" → f.machineIp = ip ∧ monitor.resolver.machine = some ip)
    (hstatus : ∀ s, f = .snapshot (.status s) → ActiveUnknown s ∧
      (site.monitor.resolver.machine = some ip → s.machineIp = ip))
    (hcached : monitor.lastStatus = site.monitor.lastStatus ∨
      ∃ s, f = .snapshot (.status s) ∧ monitor.lastStatus = some s)
    (hkept : database = site.database ∨
      ∃ s draws, f = .snapshot s ∧ database = site.database.keep draws s) :
    Unproxied address ip d ⟨monitor, database, site.found ++ [f]⟩ := by
  have hmem : ∀ {g}, g ∈ site.found → g ∈ site.found ++ [f] := List.mem_append_left _
  have hlast : f ∈ site.found ++ [f] := by simp
  refine ⟨hdirect, fun s hs => ?_, fun g hg hne => ?_, ?_, fun s hs => ?_, ?_⟩
  · rcases List.mem_append.mp hs with hs | hs
    · exact h.active s hs
    · exact (hstatus s (List.mem_singleton.mp hs).symm).1
  · rcases List.mem_append.mp hg with hg | hg
    · exact ⟨(h.known g hg hne).1, hkeeps (h.known g hg hne).2⟩
    · rw [List.mem_singleton.mp hg] at hne ⊢
      exact hknown hne
  · refine List.pairwise_append.mpr ⟨h.stays, List.pairwise_singleton _ _, ?_⟩
    intro g hg later hlater hne s hs
    rw [List.mem_singleton.mp hlater] at hs
    obtain ⟨hgip, hmachine⟩ := h.known g hg hne
    rw [hgip]
    exact (hstatus s hs).2 hmachine
  · rcases hcached with hcached | ⟨s', rfl, hcached⟩
    · exact hmem (h.cached s (hcached ▸ hs))
    · rw [hcached] at hs
      rw [← Option.some.inj hs]
      exact hlast
  · obtain ⟨es, hrows, hes⟩ := h.kept
    have hes' : ∀ e ∈ es, .snapshot e.2 ∈ site.found ++ [f] := fun e he => hmem (hes e he)
    rcases hkept with rfl | ⟨s, draws, rfl, rfl⟩
    · exact ⟨es, hrows, hes'⟩
    · rcases site.database.rows_keep_perm draws s with hsame | ⟨id, hmore⟩
      · exact ⟨es, hsame ▸ hrows, hes'⟩
      · have hall := hmore.trans (hrows.append_right [rowOf (id, s)])
        rw [List.append_assoc] at hall
        refine ⟨es ++ [(id, s)], by rwa [List.map_append], fun e he => ?_⟩
        rcases List.mem_append.mp he with he | he
        · exact hes' e he
        · rw [List.mem_singleton.mp he]
          exact hlast

theorem Site.kept_cases (site : Site) (keep : Bool) (draws : Draws) (s : Snapshot) :
    site.kept keep draws s = site.database ∨ ∃ s' draws', Finding.snapshot s = .snapshot s' ∧
      site.kept keep draws s = site.database.keep draws' s' := by
  cases keep with
  | false => exact .inl rfl
  | true => exact .inr ⟨s, draws, rfl, rfl⟩

@[simp] theorem Site.perform_status (site : Site) (keep : Bool) (env : Environment)
    (trail : Trail) : (site.perform (.status keep) env trail).1 =
      ⟨(site.monitor.probeStatus env trail).1.2,
        site.kept keep (env.draws (site.monitor.probeStatus env trail).2)
          (.status (site.monitor.probeStatus env trail).1.1),
        site.found ++ [.snapshot (.status (site.monitor.probeStatus env trail).1.1)]⟩ := rfl

@[simp] theorem Site.perform_speedTest (site : Site) (token : Option String) (keep : Bool)
    (env : Environment) (trail : Trail) : (site.perform (.speedTest token keep) env trail).1 =
      ⟨(site.monitor.probeSpeedTest token env trail).1.2,
        site.kept keep (env.draws (site.monitor.probeSpeedTest token env trail).2)
          (.speedTest (site.monitor.probeSpeedTest token env trail).1.1),
        site.found ++ [.snapshot (.speedTest (site.monitor.probeSpeedTest token env trail).1.1)]⟩ :=
  rfl

@[simp] theorem Site.perform_machineIp (site : Site) (env : Environment) (trail : Trail) :
    (site.perform .machineIp env trail).1 = ⟨(site.monitor.machineIp env trail).1.2, site.database,
      site.found ++ [.address (site.monitor.machineIp env trail).1.1]⟩ := rfl

/-- One step, whatever is asked for. -/
theorem Unproxied.perform (h : Unproxied address ip d site) (htells : TellsOnly env address ip)
    (demand : Demand) (trail : Trail) :
    Unproxied address ip d (site.perform demand env trail).1 := by
  cases demand with
  | status keep =>
    rw [Site.perform_status]
    obtain ⟨hdirect, hkeeps, hknown⟩ := h.direct.machineIp htells trail
    rw [← resolver_probeStatus] at hdirect hkeeps hknown
    rw [← machineIp_probeStatus] at hkeeps hknown
    refine h.add hdirect (fun hm => (hkeeps hm).1) hknown ?_
      (.inr ⟨_, rfl, lastStatus_probeStatus _ env trail⟩) (site.kept_cases keep _ _)
    rintro s ⟨⟩
    exact ⟨h.direct.activeUnknown htells trail, fun hm => (hkeeps hm).2⟩
  | speedTest token keep =>
    rw [Site.perform_speedTest]
    have hkept := site.kept_cases keep (env.draws (site.monitor.probeSpeedTest token env trail).2)
      (.speedTest (site.monitor.probeSpeedTest token env trail).1.1)
    rcases site.monitor.probeSpeedTest_cases token env trail with
      ⟨hresolver, hnone⟩ | ⟨trail', segment, hresolver, hsome, hsource⟩
    · refine h.add ?_ ?_ ?_ (by rintro s ⟨⟩)
        (.inl (lastStatus_probeSpeedTest _ token env trail)) hkept
      · rw [hresolver]
        exact h.direct
      · rw [hresolver]
        exact id
      · rw [Finding.machineIp, hnone]
        exact fun hne => absurd rfl hne
    · obtain ⟨hdirect, hkeeps, hknown⟩ := h.direct.machineIp htells trail'
      rw [← hresolver] at hdirect hkeeps hknown
      refine h.add hdirect (fun hm => (hkeeps hm).1) ?_ (by rintro s ⟨⟩)
        (.inl (lastStatus_probeSpeedTest _ token env trail)) hkept
      rw [Finding.machineIp, hsome, Option.map_some, Option.getD_some, hsource]
      exact hknown
  | machineIp =>
    rw [Site.perform_machineIp]
    obtain ⟨hdirect, hkeeps, hknown⟩ := h.direct.machineIp htells trail
    rw [← resolver_machineIp] at hdirect hkeeps hknown
    exact h.add hdirect (fun hm => (hkeeps hm).1) hknown (by rintro s ⟨⟩)
      (.inl (lastStatus_machineIp _ env trail)) (.inl rfl)

/-- A run. -/
theorem Unproxied.run (h : Unproxied address ip d site) (htells : TellsOnly env address ip)
    (demands : List Demand) (trail : Trail) :
    Unproxied address ip d (demands.foldlM Site.perform site env trail).1 := by
  -- on what is still asked for, at every site and after every trail
  induction demands generalizing site trail with
  | nil => exact h
  | cons demand demands ih =>
    rw [List.foldlM_cons, Action.run_bind]
    exact ih (h.perform htells demand trail) _

end Steps

theorem tunnelProxy_absent {proxyUrl : Option String} (h : proxyUrl.getD "" = "") :
    tunnelProxy proxyUrl = .ok none := by
  cases proxyUrl with
  | none => rfl
  | some s =>
    obtain rfl : s = "" := h
    rfl

/-- Without a proxy no status calls the tunnel active but while no probe has found the machine's
address, and of those all that find an address for the tunnel. That is so for each status that is
found, for the one that is remembered, and for those that are kept. -/
theorem inactive_without_tunnel {config : Config} (hproxy : config.tunnel.proxyUrl.getD "" = "")
    (now : Instant) : ∃ m, ofConfig config now = .ok m ∧
      ∀ (env : Environment) (ip : String), TellsOnly env config.probe.ipCheckUrl ip →
        ∀ (d : Database) (trail : Trail) (demands : List Demand),
          let site := (demands.foldlM Site.perform ⟨m, d, []⟩ env trail).1
          (∀ s, .snapshot (.status s) ∈ site.found → ActiveUnknown s) ∧
          (site.found.Pairwise fun f later => f.machineIp ≠ "" →
            ∀ s, later = .snapshot (.status s) → s.tunnelActive = false) ∧
          (∀ s, site.monitor.lastStatus = some s → .snapshot (.status s) ∈ site.found) ∧
          ∃ es : List (Int × Snapshot), site.database.rows.Perm (d.rows ++ es.map rowOf) ∧
            ∀ e ∈ es, .snapshot e.2 ∈ site.found := by
  refine ⟨_, ofConfig_eq (tunnelProxy_absent hproxy) now, fun env ip htells d trail demands => ?_⟩
  intro site
  have hstart : Unproxied config.probe.ipCheckUrl ip d ⟨withSources config .direct
      (.echo config.probe.ipCheckUrl .direct) (.register config.probe.asnLookupUrl) now, d, []⟩ :=
    ⟨⟨rfl, by rintro found ⟨⟩⟩, by simp, by simp, .nil, by rintro s ⟨⟩, [], by simp, by simp⟩
  have h : Unproxied config.probe.ipCheckUrl ip d site := hstart.run htells demands trail
  refine ⟨h.active, h.stays.imp_of_mem fun {f later} _ hlater hstays hne s hs => ?_,
    h.cached, h.kept⟩
  exact (h.active s (hs ▸ hlater)).inactive ((hstays hne s hs).symm ▸ hne)

/-! ## A network that fails at first -/

/-- A network that loses the first requests and shows one text to all that come later, at an instant
at which time stands still. -/
def failingFirst (lost : Nat) (body : String) : Environment where
  network requests := if requests.length ≤ lost then .lost 0 else pageOf body
  clock _ := .epoch

theorem tellsOnly_failingFirst (lost : Nat) (address : String) :
    TellsOnly (failingFirst lost "203.0.113.7") address "203.0.113.7" := by
  intro trail found h
  obtain ⟨r, ⟨requests, hreply⟩, hanswer⟩ := exists_response_of_askEcho h
  have hr : pageOf "203.0.113.7" = .response r := by
    unfold failingFirst at hreply
    dsimp only at hreply
    split at hreply
    next => exact absurd hreply (by simp)
    next => exact hreply
  have htext : r.text = "203.0.113.7" := by
    rw [← Reply.response.inj hr]
    decide +kernel
  rw [htext] at hanswer
  have hread : addressIn "203.0.113.7" = .ok "203.0.113.7" := eq_ok_of_toOption (by decide +kernel)
  exact Except.ok.inj (hanswer.symm.trans hread)

/-- The monitor of the default configuration at the epoch. -/
def unproxied : Monitor := withSources {} .direct (.echo ({} : Config).probe.ipCheckUrl .direct)
  (.register ({} : Config).probe.asnLookupUrl) .epoch

theorem ofConfig_default : ofConfig {} .epoch = .ok unproxied :=
  ofConfig_eq (tunnelProxy_absent rfl) .epoch

/-- The first request is lost, and the machine's address is found after the first check: the second
one knows it. -/
theorem inactive_without_tunnel_found_later :
    let env := failingFirst 1 "203.0.113.7"
    let demands : List Demand := [.status true, .machineIp, .status true]
    ofConfig {} .epoch = .ok unproxied ∧
      TellsOnly env ({} : Config).probe.ipCheckUrl "203.0.113.7" ∧
      let site := (demands.foldlM Site.perform ⟨unproxied, .empty, []⟩ env {}).1
      ∃ s, site.monitor.lastStatus = some s ∧ s.machineIp = "203.0.113.7" ∧
        s.tunnelIp = "203.0.113.7" ∧ s.tunnelActive = false := by
  intro env demands
  have htells := tellsOnly_failingFirst 1 ({} : Config).probe.ipCheckUrl
  refine ⟨ofConfig_default, htells, ?_⟩
  obtain ⟨m, hm, h⟩ :=
    inactive_without_tunnel (show ({} : Config).tunnel.proxyUrl.getD "" = "" from rfl) .epoch
  obtain rfl : unproxied = m := Except.ok.inj (ofConfig_default.symm.trans hm)
  have hrun := h env "203.0.113.7" htells .empty {} demands
  have hlast : ((demands.foldlM Site.perform
      ⟨unproxied, .empty, []⟩ env {}).1.monitor.lastStatus.map
      fun s => (s.machineIp, s.tunnelIp)) = some ("203.0.113.7", "203.0.113.7") := by decide +kernel
  dsimp only at hrun ⊢
  generalize (demands.foldlM Site.perform ⟨unproxied, .empty, []⟩ env {}).1 = site
    at hrun hlast ⊢
  obtain ⟨s, hs, hips⟩ := Option.map_eq_some_iff.mp hlast
  obtain ⟨hmachine, htunnel⟩ := Prod.mk.inj hips
  have hne : s.machineIp ≠ "" := by
    rw [hmachine]
    decide
  exact ⟨s, hs, hmachine, htunnel, (hrun.1 s (hrun.2.2.1 s hs)).inactive hne⟩

/-- Without a proxy, on a network that loses one request, the tunnel is active. -/
theorem active_without_tunnel :
    let env := failingFirst 1 "203.0.113.7"
    ofConfig {} .epoch = .ok unproxied ∧
      TellsOnly env ({} : Config).probe.ipCheckUrl "203.0.113.7" ∧
      (unproxied.probeStatus env {}).1.1.tunnelActive = true := by
  intro env
  refine ⟨ofConfig_default, tellsOnly_failingFirst 1 _, ?_⟩
  decide +kernel

end EgressWatch.Monitor
