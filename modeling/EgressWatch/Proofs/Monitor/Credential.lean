import EgressWatch.Proofs.Monitor.Itinerary

/-!
# Where the token is shown

The token for the provider goes with one kind of errand, the download of the second segment, and to
other addresses of the same place to which that is redirected. All other requests show what the
address of their errand is written with and nothing else:

> `Discreet env s e`: if the errand `e` goes with a token, its first request shows it, and the
> others do as redirects let them; otherwise no request shows any.

That every errand of a run is discreet (`discreet_of_runs`) follows from what a fetch does with
credentials, whoever makes it. How often a token is shown follows from the errands that lead to a
finding: once for a speed test that has one (`Leads.tokens`), and so for all demands of a run in
turn (`makes_tokens`).

Nor does a token influence anything before it is shown. Up to the end of its first segment a speed
test does not look at it (`firstSegment`), and what it does from there on depends on whether the
token can be used (`probeSpeedTest_withheld`, `probeSpeedTest_shown`): so what has been done and
found by then is the same with every token and with none (`Tested`, `tested`).
-/

namespace EgressWatch.Monitor

open Net Probe Store Time

/-! ## Credentials of errands -/

/-- The errand that goes with a token shows it in its first request, if its address and the token
can be used, and from there on as redirects let it. Other errands show what their addresses are
written with, if anything. -/
structure Discreet (env : Environment) (s : Services) (e : Errand) : Prop where
  redirected : e.requests.IsChain (FollowsUp env)
  withToken : ∀ token, e.purpose = .upstream token →
    e.requests.head? = (prepare s.upstream (some token)).toOption.map fun prepared =>
      { route := s.tunnel, url := prepared.1,
        authorization := ownCredentials s.upstream ++ ["Bearer " ++ token] }
  withoutToken : e.purpose.token? = none → ∀ q ∈ e.requests,
    q.authorization = ownCredentials (s.order e.purpose).address ∨ q.authorization = []

theorem discreet_of_runs {env : Environment} {s : Services} {trail after : Trail}
    {log : List Errand} (h : Runs env s trail log after) : ∀ e ∈ log, Discreet env s e := by
  intro e he
  have hchase := h.isChase e he
  refine ⟨hchase.next, fun token hp => ?_, fun hp q hq => ?_⟩
  · rw [hp] at hchase
    refine hchase.first.trans ?_
    cases hprepare : prepare s.upstream (some token) with
    | error fault => rw [Services.order, hprepare]; rfl
    | ok prepared =>
      have hshown : prepared.2 = ownCredentials s.upstream ++ ["Bearer " ++ token] :=
        authorization_prepare hprepare
      rw [Services.order, hprepare]
      simp [Except.toOption, hshown]
  · have hnone : (s.order e.purpose).token = none := by
      cases hpurpose : e.purpose with
      | upstream token => rw [hpurpose] at hp; exact absurd hp (by simp [Purpose.token?])
      | machineIp | tunnelIp | holder | seenIp | health | egress => rfl
    have hshown := (hchase.route_authorization q hq).2
    rw [hnone] at hshown
    simpa using hshown

/-! ## Tokens of a run -/

@[simp] theorem token?_machineLookups (known : Bool) :
    (machineLookups known).filterMap Purpose.token? = [] := by
  cases known <;> rfl

@[simp] theorem token?_holderLookups (tunnelIp : String) :
    (holderLookups tunnelIp).filterMap Purpose.token? = [] := by
  unfold holderLookups
  split <;> rfl

theorem token?_egressLookups (known : Bool) (segment : Option Segment) :
    (Tester.egressLookups known segment).filterMap Purpose.token? = [] := by
  unfold Tester.egressLookups
  split
  next => rw [List.filterMap_append, token?_machineLookups]; rfl
  next => rfl

theorem token?_upstreamErrands (token : Option String) (segment : Option Segment) :
    (Tester.upstreamErrands token segment).filterMap Purpose.token? = token.toList := by
  cases token <;> cases segment <;> rfl

/-- A probe with a token shows it once, and a probe without one shows none. -/
theorem Leads.tokens {s : Services} {m m' : Monitor} {token : Option String} {f : Finding}
    {log : List Errand} (h : Leads s m token f m' log) : tokens log = token.toList := by
  rw [Probe.tokens, h.errands]
  rcases f with (st | t) | ip
  · obtain rfl : token = none :=
      Option.not_isSome_iff_eq_none.mp fun hsome => by simpa using h.shows hsome
    rw [Finding.errands, List.filterMap_append, token?_machineLookups, List.nil_append,
      List.filterMap_append]
    exact congrArg (· ++ []) (token?_holderLookups st.tunnelIp)
  · rw [Finding.errands, List.filterMap_append, token?_upstreamErrands]
    exact congrArg (· ++ token.toList) (token?_egressLookups _ t.localEgress)
  · obtain rfl : token = none :=
      Option.not_isSome_iff_eq_none.mp fun hsome => by simpa using h.shows hsome
    exact token?_machineLookups _

/-- A run shows one token for each speed test that has one. -/
theorem makes_tokens {env : Environment} {s : Services} {site : Site} (h : site.monitor.Asks s)
    (demands : List Demand) : Makes env s (demands.foldlM Site.perform site) fun _ log =>
      tokens log = demands.filterMap Demand.token? := by
  -- on what is still asked for, at every site
  induction demands generalizing site with
  | nil => exact .pure rfl
  | cons demand demands ih =>
    rw [List.foldlM_cons]
    refine (makes_perform h demand).bind ?_
    rintro site' log ⟨f, -, hleads⟩
    refine (ih hleads.asks).imp fun _ log' hlog' => ?_
    rw [tokens_append, hleads.tokens, hlog']
    cases hshown : demand.token? <;> simp [hshown]

/-! ## One speed test -/

/-- What a speed test does before it looks at the token. -/
def firstSegment (m : Monitor) : Action SegmentRun := do
  let _ ← readClock
  m.tester.runEgress m.resolver m.counters

/-- A speed test that comes to an end `done` has come to `start` with its first segment, whatever
the token. Without a token that is all; with one there is one more download, with the token, and if
it succeeds one question for the tunnel's address. -/
structure Tested (env : Environment) (s : Services) (m : Monitor) (token : Option String)
    (start : SegmentRun × Trail) (done : (SpeedTest × Monitor) × Trail) : Prop where
  localEgress : done.1.1.localEgress = start.1.result.toOption
  withheld : usableToken token = none → done.2 = start.2 ∧ done.1.1.upstream = none ∧
    done.1.1.error = Tester.failure? "egress" start.1.result ∧
    done.1.2.counters = start.1.counters
  shown : ∀ t, usableToken token = some t → ∃ (e : Errand) (rest : List Errand)
    (outcome : Except FetchFault Segment) (arrived : UInt64),
      Runs env s start.2 (e :: rest) done.2 ∧ e.purpose = .upstream t ∧
      purposes rest = (if done.1.1.upstream.isSome then [.tunnelIp] else []) ∧
      done.1.1.upstream = outcome.toOption ∧
      done.1.1.error = (Tester.failure? "egress" start.1.result).or
        (Tester.failure? m.tester.provider.name outcome) ∧
      done.1.2.counters = start.1.counters.addSpeedTest arrived

section Test

variable (m : Monitor) (env : Environment) (trail : Trail) {token : Option String}

/-- Without a token a speed test ends with its first segment. -/
theorem probeSpeedTest_withheld (h : usableToken token = none) :
    let start := m.firstSegment env trail
    let test := m.tester.summary (env.clock trail.readings) start.1.result none
    m.probeSpeedTest token env trail = ((test, { m with
      resolver := start.1.resolver, counters := start.1.counters, lastSpeedTest := some test }),
      start.2) := by
  unfold probeSpeedTest Tester.run firstSegment
  rw [h]
  rfl

/-- With a token a speed test goes on from the end of its first segment. -/
theorem probeSpeedTest_shown {t : String} (h : usableToken token = some t) :
    let start := m.firstSegment env trail
    let upstream := m.tester.runUpstream t start.1.resolver start.1.counters env start.2
    let test := m.tester.summary (env.clock trail.readings) start.1.result (some upstream.1.result)
    m.probeSpeedTest token env trail = ((test, { m with
      resolver := upstream.1.resolver, counters := upstream.1.counters,
      lastSpeedTest := some test }), upstream.2) := by
  unfold probeSpeedTest Tester.run firstSegment
  rw [h]
  rfl

/-- All that matters of a token is whether it can be used, and which it is. -/
theorem probeSpeedTest_congr {token' : Option String} (h : usableToken token = usableToken token') :
    m.probeSpeedTest token env trail = m.probeSpeedTest token' env trail := by
  cases husable : usableToken token' with
  | none =>
    rw [probeSpeedTest_withheld m env trail (h.trans husable),
      probeSpeedTest_withheld m env trail husable]
  | some t =>
    rw [probeSpeedTest_shown m env trail (h.trans husable),
      probeSpeedTest_shown m env trail husable]

variable {m}

theorem tested {s : Services} (h : m.Asks s) (token : Option String) :
    Tested env s m token (m.firstSegment env trail) (m.probeSpeedTest token env trail) := by
  have hegress : Makes env s (m.tester.runEgress m.resolver m.counters) _ :=
    Tester.makes_runEgress h.tester h.resolver
  obtain ⟨log, -, hlearns, -⟩ := hegress { trail with readings := trail.readings + 1 }
  have hsource : (m.firstSegment env trail).1.resolver.source = .echo s.echo s.tunnel :=
    hlearns.source.trans h.resolver
  cases husable : usableToken token with
  | none =>
    rw [probeSpeedTest_withheld m env trail husable]
    refine ⟨rfl, fun _ => ⟨rfl, rfl, Option.or_none, rfl⟩, fun t ht => ?_⟩
    rw [husable] at ht
    exact absurd ht nofun
  | some t =>
    rw [probeSpeedTest_shown m env trail husable]
    generalize m.firstSegment env trail = start at hsource
    have hupstream : Makes env s (m.tester.runUpstream t start.1.resolver start.1.counters) _ :=
      Tester.makes_runUpstream h.tester hsource t
    have hruns := hupstream start.2
    have hcounters := m.tester.counters_runUpstream start.1.resolver start.1.counters t env start.2
    revert hruns hcounters
    generalize m.tester.runUpstream t start.1.resolver start.1.counters env start.2 = upstream
    rintro ⟨log, hruns, -, hlog⟩ ⟨arrived, hcounters⟩
    refine ⟨rfl, fun hnone => ?_, fun t' ht => ?_⟩
    · rw [husable] at hnone
      exact absurd hnone nofun
    · obtain rfl : t = t' := Option.some.inj (husable.symm.trans ht)
      cases log with
      | nil => exact absurd hlog nofun
      | cons e rest =>
        obtain ⟨hp, hrest⟩ := List.cons.inj hlog
        exact ⟨e, rest, upstream.1.result, arrived, hruns, hp, hrest, rfl, rfl, hcounters⟩

end Test

end EgressWatch.Monitor
