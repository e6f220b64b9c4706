import EgressWatch.Proofs.Monitor.Itinerary
import EgressWatch.Proofs.Net.Final

/-!
# Statuses that agree with themselves

The five lookups of a check fail independently, two of them without a word, and those that are told
share one place. A status that is made of them agrees with itself whatever they have come to:

> `Coherent name s`: the addresses in `s` are addresses or missing, the tunnel is active if it has
> an address of its own, without the tunnel's address nothing is said about a holder, and the error
> that is told is that of the tunnel if there is one and otherwise that of the provider `name`.

Most of this is a property of the way in which a status is put together, and needs little of what
was found: that addresses are addresses, that no holder was looked up without one, and that the
health page has a problem exactly if it is not in order (`Findings.Agree`,
`Findings.Agree.coherent`). What a check finds has these properties (`Checker.agree_ask`), with one
exception that takes a look at whole runs: an address of the machine that is kept from an earlier
probe was told by the echo service then, so it is as good as one that is told now. `Resolver.Sound`
says so of a resolver, `Sound` of a monitor, and every step of a run keeps it (`Sound.perform`,
`Sound.run`).

What remains is which errands a check makes and which of them decides about the provider: the health
page is asked last, and its headers decide (`Visits`, `exists_visits`). `status_coherent` has both
for every check of every run.
-/

namespace EgressWatch.Text

/-- A text that does not start with a blank still does not when its end is cut. -/
theorem trimStart_eq_self {cs ds : List Char} (h : ds <+: trimStart cs) : trimStart ds = ds := by
  cases ds with
  | nil => rfl
  | cons d ds =>
    obtain ⟨after, hafter⟩ := h
    have hhead := List.head?_dropWhile_not isBlank cs
    rw [← trimStart, ← hafter] at hhead
    exact trimStart_cons hhead

/-- A text whose blanks are cut has none to cut. -/
theorem trim_trim (cs : List Char) : trim (trim cs) = trim cs := by
  have hprefix : trim cs <+: trimStart cs := by
    rw [← List.reverse_suffix]
    simpa [trim, trimEnd] using List.dropWhile_suffix isBlank
  have hend : trimEnd (trim cs) = trim cs := by
    change (trimStart (trimEnd (trimStart cs)).reverse).reverse = _
    rw [trimEnd, List.reverse_reverse]
    exact congrArg List.reverse (trimStart_eq_self (List.prefix_refl _))
  rw [trim, trimStart_eq_self hprefix, hend]

end EgressWatch.Text

namespace EgressWatch.Probe

open Net Time

/-- The text is an address with no blanks around it. -/
structure IsAddress (ip : String) : Prop where
  read : (Address.read? ip).isSome
  trimmed : Text.trim ip.toList = ip.toList

theorem IsAddress.ne_empty {ip : String} (h : IsAddress ip) : ip ≠ "" := by
  rintro rfl
  exact absurd h.read (by decide)

theorem isAddress_of_addressIn {answer ip : String} (h : addressIn answer = .ok ip) :
    IsAddress ip := by
  obtain ⟨rfl, a, ha⟩ := addressIn_eq_ok h
  refine ⟨Option.isSome_iff_exists.mpr ⟨a, ha⟩, ?_⟩
  rw [String.toList_ofList, Text.trim_trim]

theorem isAddress_of_askEcho {route : Route} {address ip : String} {env : Environment}
    {trail : Trail} (h : (askEcho route address env trail).1 = .ok ip) : IsAddress ip := by
  obtain ⟨r, -, hanswer⟩ := exists_response_of_askEcho h
  exact isAddress_of_addressIn hanswer

/-! ## One status -/

/-- A status of the provider `name` agrees with itself. -/
structure Coherent (name : String) (s : Status) : Prop where
  active : s.tunnelActive ↔ s.tunnelIp ≠ "" ∧ s.tunnelIp ≠ s.machineIp
  machineIp : s.machineIp = "" ∨ IsAddress s.machineIp
  tunnelIp : s.tunnelIp = "" ∨ IsAddress s.tunnelIp
  seenIp : ∀ ip ∈ s.upstreamSeenIp, IsAddress ip
  withoutTunnel : s.tunnelIp = "" → s.tunnelAsn = "" ∧ s.tunnelOrg = "" ∧
    ∃ cause, s.lastError = some ("tunnel: " ++ cause)
  faultless : s.lastError = none ↔ s.tunnelIp ≠ "" ∧ s.upstreamOk
  upstreamFault : s.tunnelIp ≠ "" → s.upstreamOk = false →
    ∃ cause, s.lastError = some (name ++ ": " ++ cause)

/-- What a check has found goes together. -/
structure Findings.Agree (f : Findings) : Prop where
  machineIp : f.machineIp = "" ∨ IsAddress f.machineIp
  tunnelIp : ∀ ip, f.tunnelIp = .ok ip → IsAddress ip
  seenIp : ∀ ip, f.seenIp = .ok ip → IsAddress ip
  holder : ∀ fault, f.tunnelIp = .error fault → f.holder = none
  health : f.health.problem = none ↔ f.health.ok

theorem Findings.Agree.coherent {f : Findings} (h : f.Agree) (name : String) (now : Instant) :
    Coherent name (f.status name now) := by
  have hactive : (f.status name now).tunnelActive ↔ (f.status name now).tunnelIp ≠ "" ∧
      (f.status name now).tunnelIp ≠ (f.status name now).machineIp := by
    simp [Findings.status, tunnelIsActive]
  have hseen : ∀ ip ∈ (f.status name now).upstreamSeenIp, IsAddress ip :=
    fun ip hip => h.seenIp ip (eq_ok_of_toOption hip)
  cases htunnel : f.tunnelIp with
  | error fault =>
    have hip : (f.status name now).tunnelIp = "" := by
      simp [Findings.status, htunnel, Except.toOption]
    have herror : (f.status name now).lastError = some ("tunnel: " ++ fault.message) := by
      simp [Findings.status, Findings.firstProblem, htunnel]
    have hholder := h.holder fault htunnel
    refine ⟨hactive, h.machineIp, .inl hip, hseen, fun _ => ?_, ?_, fun hne => absurd hip hne⟩
    · exact ⟨by simp [Findings.status, hholder], by simp [Findings.status, hholder], _, herror⟩
    · rw [herror, hip]
      simp
  | ok ip =>
    have hip : (f.status name now).tunnelIp = ip := by
      simp [Findings.status, htunnel, Except.toOption]
    have haddress := h.tunnelIp ip htunnel
    have herror : (f.status name now).lastError =
        f.health.problem.map fun problem => name ++ ": " ++ problem := by
      simp [Findings.status, Findings.firstProblem, htunnel]
    refine ⟨hactive, h.machineIp, .inr (hip ▸ haddress), hseen, fun hempty => ?_, ?_,
      fun _ hbad => ?_⟩
    · exact absurd (hip.symm.trans hempty) haddress.ne_empty
    · rw [herror, hip, Option.map_eq_none_iff, h.health]
      exact (and_iff_right haddress.ne_empty).symm
    · have hok : f.health.ok = false := hbad
      obtain ⟨problem, hproblem⟩ : ∃ problem, f.health.problem = some problem := by
        refine Option.ne_none_iff_exists'.mp fun hnone => ?_
        rw [h.health.mp hnone] at hok
        exact absurd hok (by simp)
      exact ⟨problem, by rw [herror, hproblem]; rfl⟩

namespace Health

variable {outcome : Except FetchFault Page}

theorem ok_ofFetch_iff : (ofFetch outcome).ok ↔
    ∃ page, outcome = .ok page ∧ page.response.status = 200 := by
  cases outcome with
  | error fault => simp [ofFetch]
  | ok page =>
    unfold ofFetch
    by_cases h : page.response.status = 200
    · simp [h]
    · simp [h]

theorem latency_ofFetch (h : ∀ page, outcome ≠ .ok page) : (ofFetch outcome).latency = 0 := by
  cases outcome with
  | error fault => rfl
  | ok page => exact absurd rfl (h page)

theorem problem_ofFetch_iff : (ofFetch outcome).problem = none ↔ (ofFetch outcome).ok := by
  cases outcome with
  | error fault => simp [ofFetch]
  | ok page =>
    unfold ofFetch
    by_cases h : page.response.status = 200
    · simp [h]
    · simp [h]

end Health

/-! ## Checks -/

/-- A resolver knows only addresses, and asks an echo service for those that it does not know. -/
structure Resolver.Sound (r : Resolver) (s : Services) : Prop where
  source : r.source = .echo s.echo s.tunnel
  machine : ∀ ip, r.machine = some ip → IsAddress ip

section Checks

variable {r : Resolver} {s : Services} {env : Environment} {trail : Trail}

/-- Asking for the machine's address keeps the resolver sound, and tells an address or nothing. -/
theorem Resolver.Sound.machineIp (h : r.Sound s) (trail : Trail) :
    (r.machineIp env trail).1.2.Sound s ∧
      ((r.machineIp env trail).1.1 = "" ∨ IsAddress (r.machineIp env trail).1.1) := by
  rcases machineIp_cases h.source env trail with
    ⟨ip, hmachine, heq⟩ | ⟨-, ip, hask, heq⟩ | ⟨-, fault, -, heq⟩
  · rw [heq]
    exact ⟨h, .inr (h.machine ip hmachine)⟩
  · rw [heq]
    have hip := isAddress_of_askEcho hask
    refine ⟨⟨h.source, ?_⟩, .inr hip⟩
    rintro found ⟨⟩
    exact hip
  · rw [heq]
    exact ⟨h, .inl rfl⟩

/-- One lookup after another. -/
theorem Checker.ask_eq (c : Checker) (r : Resolver) (env : Environment) (trail : Trail) :
    let machine := r.machineIp env trail
    let tunnel := machine.1.2.tunnelIp env machine.2
    let holder := c.askHolder tunnel.1 env tunnel.2
    let seen := askEcho c.tunnel c.seenIpUrl env holder.2
    let page := fetch c.tunnel c.provider.healthUrl none healthLimit env seen.2
    c.ask r env trail =
      (({ machineIp := machine.1.1, tunnelIp := tunnel.1, holder := holder.1, seenIp := seen.1,
          health := .ofFetch page.1 }, machine.1.2), page.2) := by
  unfold ask
  rfl

theorem Checker.agree_ask (c : Checker) (h : r.Sound s) : (c.ask r env trail).1.1.Agree := by
  obtain ⟨hsound, hmachine⟩ : (r.machineIp env trail).1.2.Sound s ∧ _ := h.machineIp trail
  rw [c.ask_eq, Resolver.tunnelIp_echo hsound.source]
  refine ⟨hmachine, fun ip hip => isAddress_of_askEcho hip, fun ip hip => isAddress_of_askEcho hip,
    fun fault hfault => ?_, Health.problem_ofFetch_iff⟩
  dsimp only at hfault ⊢
  rw [hfault]
  rfl

theorem Checker.coherent_check (c : Checker) (h : r.Sound s) :
    Coherent c.provider.name (c.check r env trail).1.1 := by
  rw [c.check_eq]
  exact (c.agree_ask h).coherent _ _

end Checks

end EgressWatch.Probe

namespace EgressWatch.Monitor

open Net Probe Store Time

/-! ## Runs -/

/-- What holds of a monitor of the provider `name` at every point of a run. -/
structure Sound (m : Monitor) (s : Services) (name : String) : Prop where
  asks : m.Asks s
  name : m.checker.provider.name = name
  resolver : m.resolver.Sound s

theorem Sound.coherent {m : Monitor} {s : Services} {name : String} (h : m.Sound s name)
    (env : Environment) (trail : Trail) : Coherent name (m.probeStatus env trail).1.1 := by
  have hcheck : Coherent m.checker.provider.name (m.checker.check m.resolver env trail).1.1 :=
    m.checker.coherent_check h.resolver
  rw [h.name] at hcheck
  exact hcheck

section Runs

variable {s : Services} {name : String} {site : Site} {env : Environment}

/-- One step, whatever is asked for. -/
theorem Sound.perform (h : site.monitor.Sound s name) (demand : Demand) (trail : Trail) :
    (site.perform demand env trail).1.monitor.Sound s name := by
  have hmakes : Makes env s (site.perform demand) _ := makes_perform h.asks demand
  obtain ⟨log, -, f, -, hleads⟩ := hmakes trail
  refine ⟨hleads.asks, ?_, ?_⟩
  · cases demand with
    | status keep => exact h.name
    | speedTest token keep => exact h.name
    | machineIp => exact h.name
  · cases demand with
    | status keep => exact (h.resolver.machineIp trail).1
    | machineIp => exact (h.resolver.machineIp trail).1
    | speedTest token keep =>
      rw [Site.perform_speedTest]
      rcases site.monitor.probeSpeedTest_cases token env trail with
        ⟨hsame, -⟩ | ⟨trail', -, hasked, -⟩
      · rw [hsame]
        exact h.resolver
      · rw [hasked]
        exact (h.resolver.machineIp trail').1

/-- A run. -/
theorem Sound.run (h : site.monitor.Sound s name) (demands : List Demand) (trail : Trail) :
    (demands.foldlM Site.perform site env trail).1.monitor.Sound s name := by
  -- on what is asked for, at every site and after every trail
  induction demands generalizing site trail with
  | nil => exact h
  | cons demand demands ih =>
    rw [List.foldlM_cons, Action.run_bind]
    exact ih (h.perform demand trail) _

end Runs

/-- A check that tells a status goes to the health page last, at `visit`, and by what it comes to
there the status goes. Nothing is asked of the register without an address to ask for. -/
structure Visits (env : Environment) (s : Services) (known : Bool) (start : Trail) (status : Status)
    (log : List Errand) (visit finish : Trail) : Prop where
  all : ∃ e, e.purpose = .health ∧ Runs env s start (log ++ [e]) finish
  before : Runs env s start log visit
  errands : purposes log =
    machineLookups known ++ (.tunnelIp :: holderLookups status.tunnelIp ++ [.seenIp])
  withoutTunnel : status.tunnelIp = "" → ∀ e ∈ log, e.purpose.holder? = none
  ok : status.upstreamOk ↔
    ∃ page, (s.order .health).ComesTo env visit page ∧ page.response.status = 200
  latency : (∀ page, ¬ (s.order .health).ComesTo env visit page) → status.upstreamLatency = 0

theorem holder?_withoutTunnel (known : Bool) :
    ∀ p ∈ machineLookups known ++ (.tunnelIp :: holderLookups "" ++ [.seenIp]),
      p.holder? = none := by
  cases known <;> simp [machineLookups, holderLookups, Purpose.holder?]

theorem probeStatus_eq (m : Monitor) (env : Environment) (trail : Trail) :
    let found := m.checker.check m.resolver env trail
    m.probeStatus env trail =
      ((found.1.1, { m with resolver := found.1.2, lastStatus := some found.1.1 }), found.2) := by
  unfold probeStatus
  rfl

theorem exists_visits {s : Services} {m : Monitor} (h : m.Asks s) (env : Environment)
    (trail : Trail) : ∃ log visit, Visits env s m.resolver.machine.isSome trail
      (m.probeStatus env trail).1.1 log visit (m.probeStatus env trail).2 := by
  have hchecks : Makes env s (m.checker.check m.resolver) _ :=
    Checker.makes_check_health h.checker h.resolver
  obtain ⟨all, hall, -, log, e, rfl, hhealth, hlog⟩ := hchecks trail
  rw [probeStatus_eq]
  dsimp only
  generalize m.checker.check m.resolver env trail = found at hall hhealth hlog
  obtain ⟨visit, hruns, hlast⟩ := hall.last
  have hcomes : ∀ page, (s.order .health).ComesTo env visit page ↔ e.outcome = .ok page := by
    intro page
    rw [← Order.fetch_eq_ok_iff, ← hhealth.purpose, hlast.fetched]
  refine ⟨log, visit, ⟨e, hhealth.purpose, hall⟩, hruns, hlog, fun hempty e' he' => ?_, ?_,
    fun hnone => ?_⟩
  · refine holder?_withoutTunnel m.resolver.machine.isSome _ ?_
    rw [← hempty]
    exact hlog ▸ List.mem_map_of_mem he'
  · simp only [hcomes]
    exact (Eq.congr_left hhealth.ok).trans Health.ok_ofFetch_iff
  · refine hhealth.latency.trans (Health.latency_ofFetch fun page hpage => ?_)
    exact hnone page ((hcomes page).mpr hpage)

theorem exists_tunnelProxy {config : Config} {now : Instant} {m : Monitor}
    (h : ofConfig config now = .ok m) :
    ∃ proxy, tunnelProxy config.tunnel.proxyUrl = .ok proxy := by
  cases hproxy : tunnelProxy config.tunnel.proxyUrl with
  | ok proxy => exact ⟨proxy, rfl⟩
  | error fault =>
    rw [ofConfig, hproxy] at h
    cases h

/-- Every status that a monitor finds agrees with itself, whatever the network does and whatever was
found before. Whether the provider is reached is decided by the headers of its health page. -/
theorem status_coherent {config : Config} {now : Instant} {m : Monitor}
    (hmade : ofConfig config now = .ok m) :
    ∃ proxy, tunnelProxy config.tunnel.proxyUrl = .ok proxy ∧
      ∀ (env : Environment) (d : Database) (trail : Trail) (demands : List Demand),
        let s := services config (tunnelRoute proxy)
        let run := demands.foldlM Site.perform ⟨m, d, []⟩ env trail
        let probe := run.1.monitor.probeStatus env run.2
        Coherent config.upstream.name probe.1.1 ∧
          ∃ log visit, Visits env s run.1.monitor.resolver.machine.isSome run.2 probe.1.1 log visit
            probe.2 := by
  obtain ⟨proxy, hproxy⟩ := exists_tunnelProxy hmade
  refine ⟨proxy, hproxy, fun env d trail demands => ?_⟩
  intro s run probe
  have hstart : (Site.mk m d []).monitor.Sound s config.upstream.name := by
    have hasks : m.Asks s := asks_ofConfig hproxy hmade
    rw [ofConfig_eq hproxy] at hmade
    rw [← Except.ok.inj hmade] at hasks ⊢
    exact ⟨hasks, rfl, hasks.resolver, by rintro ip ⟨⟩⟩
  have hsound : run.1.monitor.Sound s config.upstream.name :=
    hstart.run demands trail
  exact ⟨hsound.coherent env _, exists_visits hsound.asks env _⟩

/-- Behind a tunnel that shows an address of its own, the second check of a run finds it active and
tells no error. -/
theorem status_coherent_second_check :
    let env := twoFaced "192.0.2.1" "198.51.100.7"
    let run :=
      [Demand.status true].foldlM Site.perform ⟨oneServerMonitor .tunnel, .empty, []⟩ env {}
    let s := (run.1.monitor.probeStatus env run.2).1.1
    ofConfig (oneServer (some "http://b/")) .epoch = .ok (oneServerMonitor .tunnel) ∧
      IsAddress s.machineIp ∧ IsAddress s.tunnelIp ∧ s.tunnelActive = true ∧
        s.lastError = none := by
  intro env run s
  have hfound : s.machineIp = "192.0.2.1" ∧ s.tunnelIp = "198.51.100.7" ∧ s.upstreamOk := by
    decide +kernel
  obtain ⟨proxy, -, h⟩ := status_coherent ofConfig_oneServer
  obtain ⟨hcoherent, -⟩ := h env .empty {} [.status true]
  dsimp only [s, run] at hfound hcoherent ⊢
  generalize [Demand.status true].foldlM Site.perform ⟨oneServerMonitor .tunnel, .empty, []⟩ env {}
    = run at hfound hcoherent ⊢
  generalize (run.1.monitor.probeStatus env run.2).1.1 = s at hfound hcoherent ⊢
  obtain ⟨hmachine, htunnel, hok⟩ := hfound
  have hne : s.tunnelIp ≠ "" := by
    rw [htunnel]
    decide
  refine ⟨ofConfig_oneServer, hcoherent.machineIp.resolve_left ?_,
    hcoherent.tunnelIp.resolve_left hne, hcoherent.active.mpr ⟨hne, ?_⟩,
    hcoherent.faultless.mpr ⟨hne, hok⟩⟩
  · rw [hmachine]
    decide
  · rw [hmachine, htunnel]
    decide

end EgressWatch.Monitor
