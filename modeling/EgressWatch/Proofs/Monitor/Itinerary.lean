import EgressWatch.Proofs.Monitor.Direct
import EgressWatch.Proofs.Probe.Errand

/-!
# What leaves outside the tunnel

With a proxy that connections go through, two kinds of errands go out directly, those that ask for
the machine's address and those that ask who holds the tunnel's; all others go through the tunnel,
whatever comes of them:

> `direct_only_for`: a request that goes out directly is part of one of the two, and of these there
> is one for each status that has the tunnel's address, and none about the machine's address once
> that was told.

Which errands a run makes is a question of its own, and of use beyond this file. What a probe finds
tells which errands have led to it (`Finding.errands`): a check has looked up what its status tells,
and a speed test what its segments do. `Leads` says this of one probe, for each of the three kinds
(`makes_probeStatus`, `makes_probeSpeedTest`, `makes_machineIp`), and `Tours` of a run, for which
the errands of its findings are strung together (`itinerary`) with one thing to carry along: whether
the machine's address was known by then. The induction on demands is `makes_run`.

Where an errand goes is fixed by the services of a configuration (`services`, `route_order_tunnel`),
and a fetch keeps its route through all redirects. A proxy that no connection goes through is
another matter: it is accepted, and everything goes out directly (`unused_proxy_lets_out`).
-/

namespace EgressWatch.Monitor

open Net Probe Store Time

/-- Where a configuration has a monitor ask. -/
def services (config : Config) (route : Route) : Services where
  tunnel := route
  echo := config.probe.ipCheckUrl
  register := config.probe.asnLookupUrl
  seenIp := config.probe.seenIpUrl
  health := config.upstream.healthUrl
  egress := config.probe.egressSpeedUrl
  upstream := config.upstream.speedUrl

/-- The monitor asks these services, whatever it has found so far. -/
structure Asks (m : Monitor) (s : Services) : Prop where
  resolver : m.resolver.source = .echo s.echo s.tunnel
  checker : m.checker.Asks s
  tester : m.tester.Asks s

theorem asks_ofConfig {config : Config} {proxy : Option Url} {now : Instant} {m : Monitor}
    (hproxy : tunnelProxy config.tunnel.proxyUrl = .ok proxy) (h : ofConfig config now = .ok m) :
    m.Asks (services config (tunnelRoute proxy)) := by
  rw [ofConfig_eq hproxy now] at h
  rw [← Except.ok.inj h]
  exact ⟨rfl, ⟨rfl, rfl, rfl, rfl⟩, ⟨rfl, rfl, rfl⟩⟩

/-! ## Errands of a run -/

/-- The token that is shown to meet a demand. -/
def Demand.token? : Demand → Option String
  | .speedTest token _ => usableToken token
  | .status _ => none
  | .machineIp => none

/-- The tunnel's address in a status, if there is one. -/
def Finding.tunnelIp? : Finding → Option String
  | .snapshot (.status s) => if s.tunnelIp = "" then none else some s.tunnelIp
  | .snapshot (.speedTest _) => none
  | .address _ => none

/-- The errands that lead to a finding, given whether the machine's address was known before and the
token that was shown. -/
def Finding.errands (known : Bool) (token : Option String) : Finding → List Purpose
  | .snapshot (.status s) =>
    machineLookups known ++ (.tunnelIp :: holderLookups s.tunnelIp ++ [.seenIp, .health])
  | .snapshot (.speedTest t) =>
    .egress :: Tester.egressLookups known t.localEgress ++ Tester.upstreamErrands token t.upstream
  | .address _ => machineLookups known

/-- The errands that lead to findings, one after the other: what one of them tells is known to those
that follow. -/
def itinerary (known : Bool) : List (Option String × Finding) → List Purpose
  | [] => []
  | (token, f) :: rest => f.errands known token ++ itinerary (known || f.machineIp != "") rest

@[simp] theorem holder?_machineLookups (known : Bool) :
    (machineLookups known).filterMap Purpose.holder? = [] := by
  cases known <;> rfl

/-- A status that has the tunnel's address takes one errand to its holder. -/
theorem Finding.holders_errands (known : Bool) (token : Option String) (f : Finding) :
    (f.errands known token).filterMap Purpose.holder? = f.tunnelIp?.toList := by
  rcases f with (s | t) | ip
  · rw [errands, List.filterMap_append, holder?_machineLookups, tunnelIp?, holderLookups]
    split
    next => rfl
    next => rfl
  · have hegress : (Tester.egressLookups known t.localEgress).filterMap Purpose.holder? = [] := by
      unfold Tester.egressLookups
      split
      next => rw [List.filterMap_append, holder?_machineLookups]; rfl
      next => rfl
    have hupstream : (Tester.upstreamErrands token t.upstream).filterMap Purpose.holder? = [] := by
      cases token <;> cases t.upstream <;> rfl
    rw [errands, List.filterMap_append, hupstream, List.append_nil]
    exact hegress
  · exact holder?_machineLookups known

theorem holders_itinerary (known : Bool) (legs : List (Option String × Finding)) :
    (itinerary known legs).filterMap Purpose.holder? = legs.filterMap (·.2.tunnelIp?) := by
  -- on the probes, whether the machine's address is known to them or not
  induction legs generalizing known with
  | nil => rfl
  | cons leg legs ih =>
    rw [itinerary, List.filterMap_append, Finding.holders_errands, ih]
    cases h : leg.2.tunnelIp? <;> simp [h]

section Runs

variable {env : Environment} {s : Services} {m : Monitor}

/-- What a probe does to a monitor: the errands are those that lead to what is found. A token is
shown only to find a speed test. -/
structure Leads (s : Services) (m : Monitor) (token : Option String) (f : Finding) (m' : Monitor)
    (log : List Errand) : Prop where
  asks : m'.Asks s
  shows : token.isSome → ∃ t, f = .snapshot (.speedTest t)
  learns : Learns m.resolver f.machineIp m'.resolver log
  errands : purposes log = f.errands m.resolver.machine.isSome token

theorem makes_probeStatus (h : m.Asks s) : Makes env s m.probeStatus fun found log =>
    Leads s m none (.snapshot (.status found.1)) found.2 log := by
  unfold probeStatus
  refine (Checker.makes_check h.checker h.resolver).bind fun found log ⟨hlearns, hpurposes⟩ => ?_
  refine .pure ?_
  rw [List.append_nil]
  exact ⟨⟨hlearns.source.trans h.resolver, h.checker, h.tester⟩, nofun, hlearns, hpurposes⟩

theorem makes_probeSpeedTest (h : m.Asks s) (token : Option String) :
    Makes env s (m.probeSpeedTest token) fun found log =>
      Leads s m (usableToken token) (.snapshot (.speedTest found.1)) found.2 log := by
  unfold probeSpeedTest
  refine (Tester.makes_run h.tester h.resolver token).bind fun found log ⟨hlearns, hpurposes⟩ => ?_
  refine .pure ?_
  rw [List.append_nil]
  exact ⟨⟨hlearns.source.trans h.resolver, h.checker, h.tester⟩, fun _ => ⟨_, rfl⟩, hlearns,
    hpurposes⟩

theorem makes_machineIp (h : m.Asks s) : Makes env s m.machineIp fun found log =>
    Leads s m none (.address found.1) found.2 log := by
  unfold machineIp
  refine (Resolver.makes_machineIp h.resolver).bind fun found log ⟨hlearns, hpurposes⟩ => ?_
  refine .pure ?_
  rw [List.append_nil]
  exact ⟨⟨hlearns.source.trans h.resolver, h.checker, h.tester⟩, nofun, hlearns, hpurposes⟩

variable {site : Site}

theorem makes_perform (h : site.monitor.Asks s) (demand : Demand) :
    Makes env s (site.perform demand) fun site' log => ∃ f,
      site'.found = site.found ++ [f] ∧ Leads s site.monitor demand.token? f site'.monitor log := by
  cases demand with
  | status keep =>
    refine (makes_probeStatus h).bind fun found log hleads => ?_
    refine makes_readDraws.quietly fun draws => .pure ⟨_, rfl, ?_⟩
    rw [List.append_nil]
    exact hleads
  | speedTest token keep =>
    refine (makes_probeSpeedTest h token).bind fun found log hleads => ?_
    refine makes_readDraws.quietly fun draws => .pure ⟨_, rfl, ?_⟩
    rw [List.append_nil]
    exact hleads
  | machineIp =>
    refine (makes_machineIp h).bind fun found log hleads => .pure ⟨_, rfl, ?_⟩
    rw [List.append_nil]
    exact hleads

/-- What a run does to a site: it adds one finding for each demand, and the errands are those that
lead to the findings. -/
structure Tours (s : Services) (site site' : Site) (demands : List Demand) (found : List Finding)
    (log : List Errand) : Prop where
  adds : site'.found = site.found ++ found
  count : found.length = demands.length
  asks : site'.monitor.Asks s
  settles : Settles site.monitor.resolver site'.monitor.resolver log
  errands : purposes log =
    itinerary site.monitor.resolver.machine.isSome ((demands.map Demand.token?).zip found)

theorem makes_run (h : site.monitor.Asks s) (demands : List Demand) :
    Makes env s (demands.foldlM Site.perform site) fun site' log =>
      ∃ found, Tours s site site' demands found log := by
  -- on what is still asked for, at every site
  induction demands generalizing site with
  | nil => exact .pure ⟨[], by simp, rfl, h, .others _ (by simp), rfl⟩
  | cons demand demands ih =>
    rw [List.foldlM_cons]
    refine (makes_perform h demand).bind ?_
    rintro site' log ⟨f, hfound, hleads⟩
    refine (ih hleads.asks).imp ?_
    rintro site'' log' ⟨found, htour⟩
    refine ⟨f :: found, by simp [htour.adds, hfound], by simp [htour.count], htour.asks,
      hleads.learns.toSettles.trans htour.settles, ?_⟩
    rw [purposes_append, hleads.errands, htour.errands, hleads.learns.known]
    rfl

end Runs

/-! ## With a proxy -/

/-- Two kinds of errands go out directly. -/
theorem route_order_tunnel (config : Config) (p : Purpose) :
    ((services config .tunnel).order p).route = .direct ↔
      p = .machineIp ∨ ∃ ip, p = .holder ip := by
  cases p <;> simp [Services.order, services]

/-- With a proxy that connections go through every request is part of an errand that leads to what
is found, and goes through the tunnel, redirected or not, unless the errand asks for the machine's
address or for the holder of the tunnel's. The former is not asked for once it was told, and the
latter once for each status that has the tunnel's address. -/
theorem direct_only_for {config : Config} {address : String} {proxy : Url}
    (hset : config.tunnel.proxyUrl = some address) (hne : address ≠ "")
    (haccepted : readProxy address = .ok proxy) (hcarries : carries proxy) (now : Instant) :
    ∃ m, ofConfig config now = .ok m ∧
      ∀ (env : Environment) (d : Database) (trail : Trail) (demands : List Demand),
        let run := demands.foldlM Site.perform ⟨m, d, []⟩ env trail
        let s := services config .tunnel
        ∃ log, Runs env s trail log run.2 ∧
          run.2.requests = (log.flatMap (·.requests)).reverse ++ trail.requests ∧
          run.1.found.length = demands.length ∧
          purposes log = itinerary false ((demands.map Demand.token?).zip run.1.found) ∧
          (∀ e ∈ log, IsChase env (s.order e.purpose) e.requests ∧
            ∀ q ∈ e.requests, q.route = .direct ↔
              e.purpose = .machineIp ∨ ∃ ip, e.purpose = .holder ip) ∧
          (log.Pairwise fun e later =>
            e.purpose = .machineIp → e.answer.isOk → later.purpose ≠ .machineIp) ∧
          (purposes log).filterMap Purpose.holder? = run.1.found.filterMap Finding.tunnelIp? := by
  have hproxy : tunnelProxy config.tunnel.proxyUrl = .ok (some proxy) := by
    rw [hset, tunnelProxy, Option.filter_some, if_pos (by simpa using hne)]
    exact congrArg (Except.map some) haccepted
  have hroute : tunnelRoute (some proxy) = .tunnel := if_pos hcarries
  have hmade := ofConfig_eq hproxy now
  rw [hroute] at hmade
  refine ⟨_, hmade, fun env d trail demands => ?_⟩
  intro run s
  have hasks := asks_ofConfig hproxy hmade
  rw [hroute] at hasks
  have hmakes : Makes env s (demands.foldlM Site.perform ⟨_, d, []⟩) _ := makes_run hasks demands
  obtain ⟨log, hruns, found, htour⟩ := hmakes trail
  have hfound : run.1.found = found := htour.adds
  have herrands : purposes log = itinerary false ((demands.map Demand.token?).zip found) :=
    htour.errands
  refine ⟨log, hruns, hruns.requests_eq, ?_, ?_, fun e he => ?_, htour.settles.settled, ?_⟩
  · rw [hfound, htour.count]
  · rw [hfound, herrands]
  · have hchase := hruns.isChase e he
    refine ⟨hchase, fun q hq => ?_⟩
    rw [(hchase.route_authorization q hq).1]
    exact route_order_tunnel config e.purpose
  · have hzip : (((demands.map Demand.token?).zip found).map Prod.snd) = found :=
      List.map_snd_zip (by simp [htour.count])
    rw [hfound, herrands, holders_itinerary, ← hzip, List.filterMap_map, hzip]
    rfl

/-- Two addresses that differ, asked for by two status checks with a question for the machine's
address between them: this is known then, and the tunnel's is asked for each time. -/
theorem direct_only_for_two_checks :
    let env := twoFaced "2001:db8::1" "198.51.100.7"
    let demands : List Demand := [.status true, .machineIp, .status true]
    ∃ proxy m, readProxy "http://192.0.2.9:3128" = .ok proxy ∧ carries proxy ∧
      ofConfig proxied .epoch = .ok m ∧ ∃ log, Runs env (services proxied .tunnel) {} log
          (demands.foldlM Site.perform ⟨m, .empty, []⟩ env {}).2 ∧
        purposes log = [.machineIp, .tunnelIp, .holder "198.51.100.7", .seenIp, .health,
          .tunnelIp, .holder "198.51.100.7", .seenIp, .health] := by
  intro env demands
  have hread : (readProxy "http://192.0.2.9:3128").toOption.map carries = some true := by
    decide +kernel
  obtain ⟨proxy, hproxy, hcarries⟩ := Option.map_eq_some_iff.mp hread
  have haccepted := eq_ok_of_toOption hproxy
  have hset : proxied.tunnel.proxyUrl = some "http://192.0.2.9:3128" := rfl
  obtain ⟨m, hm, h⟩ := direct_only_for hset (by decide) haccepted hcarries .epoch
  refine ⟨proxy, m, haccepted, hcarries, hm, ?_⟩
  obtain rfl : withSources proxied .tunnel (.echo proxied.probe.ipCheckUrl .tunnel)
      (.register proxied.probe.asnLookupUrl) .epoch = m :=
    Except.ok.inj (ofConfig_proxied.symm.trans hm)
  obtain ⟨log, hruns, -, -, herrands, -⟩ := h env .empty {} demands
  refine ⟨log, hruns, herrands.trans ?_⟩
  decide +kernel

/-- A proxy for files is accepted, but a speed test that it is set for goes out directly. -/
theorem unused_proxy_lets_out :
    let config : Config := { tunnel := { proxyUrl := some "ftp://192.0.2.9" } }
    let env : Environment := { network := .unreachable, clock := fun _ => .epoch }
    ∃ proxy m, readProxy "ftp://192.0.2.9" = .ok proxy ∧ ofConfig config .epoch = .ok m ∧
      (m.probeSpeedTest none env {}).2.requests.map (fun q => (q.route, q.url.text)) =
        [(.direct, config.probe.egressSpeedUrl)] := by
  intro config env
  have hread : (readProxy "ftp://192.0.2.9").toOption.map carries = some false := by decide +kernel
  obtain ⟨proxy, hproxy, hcarries⟩ := Option.map_eq_some_iff.mp hread
  have haccepted := eq_ok_of_toOption hproxy
  have htunnel : tunnelProxy config.tunnel.proxyUrl = .ok (some proxy) :=
    congrArg (Except.map some) haccepted
  have hroute : tunnelRoute (some proxy) = .direct := if_neg (by simp [hcarries])
  refine ⟨proxy, _, haccepted, ofConfig_eq htunnel .epoch, ?_⟩
  rw [hroute]
  decide +kernel

end EgressWatch.Monitor
