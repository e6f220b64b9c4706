import EgressWatch.Proofs.Probe.Lookup

/-!
# Lookups that do not disturb each other

A check makes five lookups, and two of them are welcome but not needed: who holds the tunnel's
address, and which address is seen behind the tunnel. However these two come out, each shows in
places of its own and nowhere else; so does the machine's address. Two checks in which the other
lookups come to the same therefore find the same in all other places, measured times apart:

> `lookups_apart`: of any two checks of a provider, if the machine's address, the tunnel's address
> and the health page come to the same, the statuses are the same but for the holder and the address
> that is seen.

What each lookup has come to is said by `Outcomes`, and a status is made of these and of nothing
else (`Checker.status_check`). So two checks can be compared without a word about networks, clocks
or what was asked before: it is enough to compare how their findings are put together. Where the
three that count agree, so does all that does not stem from the other two (`status_of_agreed`), and
where all but the machine's address do, so does all but that and the verdict on the tunnel
(`status_of_agreed_abroad`).

In particular there is one place for an error, and only the tunnel's address and the health page can
fill it (`firstProblem_congr`). Of the health page what counts is whether and with which status it
was answered (`Outcomes.answer`); the time that it took is a measured one.
-/

namespace EgressWatch.Status

/-- The status with the measured times of another. -/
def withTimesOf (s t : Status) : Status :=
  { s with upstreamLatency := t.upstreamLatency, checkedAt := t.checkedAt }

end EgressWatch.Status

namespace EgressWatch.Probe

open Net Time

/-- What the lookups of a check have come to. -/
structure Outcomes where
  machineIp : String
  tunnelIp : Except EchoFault String
  holder : Option Holder
  seenIp : Except EchoFault String
  page : Except FetchFault Page

namespace Outcomes

/-- How the health page was answered, whatever time it took: with a status or not at all. -/
def answer (o : Outcomes) : Except FetchFault Nat := o.page.map (·.response.status)

/-- The findings that outcomes make. -/
def findings (o : Outcomes) : Findings where
  machineIp := o.machineIp
  tunnelIp := o.tunnelIp
  holder := o.holder
  seenIp := o.seenIp
  health := .ofFetch o.page

end Outcomes

/-- The lookups of a check, one after the other. -/
def Checker.outcomes (c : Checker) (r : Resolver) (env : Environment) (trail : Trail) : Outcomes :=
  let machine := r.machineIp env trail
  let tunnel := machine.1.2.tunnelIp env machine.2
  let holder := c.askHolder tunnel.1 env tunnel.2
  let seen := askEcho c.tunnel c.seenIpUrl env holder.2
  let page := fetch c.tunnel c.provider.healthUrl none healthLimit env seen.2
  { machineIp := machine.1.1, tunnelIp := tunnel.1, holder := holder.1, seenIp := seen.1
    page := page.1 }

/-- A status is made of the outcomes of the lookups, and stamped when they are done. -/
theorem Checker.status_check (c : Checker) (r : Resolver) (env : Environment) (trail : Trail) :
    (c.check r env trail).1.1 =
      (c.outcomes r env trail).findings.status c.provider.name (env.clock trail.readings) := by
  rw [check_eq]
  rfl

/-! ## Health -/

/-- Health without the time that it took to find out. -/
def Health.verdict (h : Health) : Bool × Option String := (h.ok, h.problem)

/-- The answer for the health page decides the verdict. -/
theorem Health.verdict_ofFetch (outcome : Except FetchFault Page) :
    (ofFetch outcome).verdict = match outcome.map (·.response.status) with
      | .error fault => (false, some fault.message)
      | .ok status =>
        if status = 200 then (true, none)
        else (false, some ("unexpected status " ++ StatusCode.text status)) := by
  cases outcome with
  | error fault => rfl
  | ok page =>
    show (ofFetch (.ok page)).verdict = if page.response.status = 200 then _ else _
    unfold ofFetch
    by_cases h : page.response.status = 200
    · simp [verdict, h]
    · simp [verdict, h]

theorem Outcomes.verdict_eq {o o' : Outcomes} (h : o.answer = o'.answer) :
    o.findings.health.verdict = o'.findings.health.verdict := by
  have hanswer : o.page.map (·.response.status) = o'.page.map (·.response.status) := h
  show (Health.ofFetch o.page).verdict = (Health.ofFetch o'.page).verdict
  rw [Health.verdict_ofFetch, Health.verdict_ofFetch, hanswer]

/-! ## Two checks -/

namespace Findings

variable {f f' : Findings} {name : String} {now now' : Instant}

/-- The error that is told goes by the tunnel's address and by the verdict on health. -/
theorem firstProblem_congr (htunnel : f.tunnelIp = f'.tunnelIp)
    (hhealth : f.health.verdict = f'.health.verdict) :
    f.firstProblem name = f'.firstProblem name := by
  have hproblem : f.health.problem = f'.health.problem := congrArg Prod.snd hhealth
  unfold firstProblem
  rw [htunnel, hproblem]

/-- Where the three lookups that count agree, so does all that does not stem from the other two. -/
theorem status_of_agreed (hmachine : f.machineIp = f'.machineIp)
    (htunnel : f.tunnelIp = f'.tunnelIp) (hhealth : f.health.verdict = f'.health.verdict) :
    let s := f.status name now
    let s' := f'.status name now'
    s' = { s.withTimesOf s' with
      tunnelAsn := s'.tunnelAsn, tunnelOrg := s'.tunnelOrg,
      upstreamSeenIp := s'.upstreamSeenIp } := by
  have hok : f.health.ok = f'.health.ok := congrArg Prod.fst hhealth
  simp only [status, Status.withTimesOf, hmachine, htunnel, hok, firstProblem_congr htunnel hhealth]

/-- Where all but the machine's address agree, so does all but this address and whether the tunnel
presents another. -/
theorem status_of_agreed_abroad (htunnel : f.tunnelIp = f'.tunnelIp)
    (hholder : f.holder = f'.holder) (hseen : f.seenIp = f'.seenIp)
    (hhealth : f.health.verdict = f'.health.verdict) :
    let s := f.status name now
    let s' := f'.status name now'
    s' = { s.withTimesOf s' with
      machineIp := s'.machineIp, tunnelActive := s'.tunnelActive } := by
  have hok : f.health.ok = f'.health.ok := congrArg Prod.fst hhealth
  simp only [status, Status.withTimesOf, htunnel, hholder, hseen, hok,
    firstProblem_congr htunnel hhealth]

end Findings

/-- Any two checks of a provider. If the machine's address, the tunnel's address and the health page
come to the same, the statuses are the same but for the holder of the tunnel's address and the
address that is seen behind it, measured times apart, whatever came of these two lookups. What is
said about the holder goes by the lookup of the holder alone, what is said about the address that is
seen by the lookup of that, and the time until the provider answered by the health page. If all but
the machine's address come to the same, the statuses are the same but for that address and whether
the tunnel is active. -/
theorem lookups_apart {c c' : Checker} (hname : c.provider.name = c'.provider.name)
    (r r' : Resolver) (env env' : Environment) (trail trail' : Trail) :
    let o := c.outcomes r env trail
    let o' := c'.outcomes r' env' trail'
    let s := (c.check r env trail).1.1
    let s' := (c'.check r' env' trail').1.1
    (o.machineIp = o'.machineIp → o.tunnelIp = o'.tunnelIp → o.answer = o'.answer →
      s' = { s.withTimesOf s' with tunnelAsn := s'.tunnelAsn, tunnelOrg := s'.tunnelOrg,
                                   upstreamSeenIp := s'.upstreamSeenIp }) ∧
    (o.holder = o'.holder → s.tunnelAsn = s'.tunnelAsn ∧ s.tunnelOrg = s'.tunnelOrg) ∧
    (o.seenIp.toOption = o'.seenIp.toOption → s.upstreamSeenIp = s'.upstreamSeenIp) ∧
    (o.page = o'.page → s.upstreamLatency = s'.upstreamLatency) ∧
    (o.tunnelIp = o'.tunnelIp → o.holder = o'.holder → o.seenIp = o'.seenIp →
      o.answer = o'.answer →
      s' = { s.withTimesOf s' with
        machineIp := s'.machineIp, tunnelActive := s'.tunnelActive }) := by
  intro o o' s s'
  have hs : s = o.findings.status c.provider.name (env.clock trail.readings) := c.status_check ..
  have hs' : s' = o'.findings.status c.provider.name (env'.clock trail'.readings) := by
    rw [hname]
    exact c'.status_check ..
  rw [hs, hs']
  refine ⟨fun hmachine htunnel hanswer => ?_, fun hholder => ?_, fun hseen => hseen,
    fun hpage => ?_, fun htunnel hholder hseen hanswer => ?_⟩
  · exact Findings.status_of_agreed hmachine htunnel (Outcomes.verdict_eq hanswer)
  · have hsame : o.findings.holder = o'.findings.holder := hholder
    simp only [Findings.status, hsame, and_self]
  · exact congrArg (fun page => (Health.ofFetch page).latency) hpage
  · exact Findings.status_of_agreed_abroad htunnel hholder hseen (Outcomes.verdict_eq hanswer)

/-! ## A provider out of service -/

/-- A response with a body, at once. -/
def answering (status : Nat) (body : String) : Reply :=
  .response { wait := 0, status, phrase := "", chunks := [⟨0, Text.Utf8.encode body.toList⟩] }

/-- A network behind which the provider is out of service. It replies in these ways when it is asked
for the machine's address, for a holder and for the address that is seen. -/
def outOfService (machine holder seen : Reply) : Environment where
  network requests := match requests.head?.map fun q => (q.route, q.url.host) with
    | some (Route.direct, some (Host.name "echo")) => machine
    | some (Route.tunnel, some (Host.name "echo")) => answering 200 "198.51.100.7"
    | some (_, some (Host.name "register")) => holder
    | some (_, some (Host.name "seen")) => seen
    | _ => answering 503 ""
  clock _ := .epoch

/-- A check of all that such a network has. -/
def wideChecker : Checker where
  holders := .register "http://register"
  tunnel := .tunnel
  provider := { name := "p", host := "p", healthUrl := "http://p/", speedUrl := "http://p/" }
  seenIpUrl := "http://seen/"

/-- Three checks: with all that is welcome at its best, with nothing of it, and with all of it but
the machine's address. -/
theorem lookups_apart_failing_lookups :
    let known := answering 200 "192.0.2.1"
    let held := answering 200 "\x7b\"as\":\"AS1\"\x7d"
    let r : Resolver := { source := .echo "http://echo/" .tunnel }
    let check (env : Environment) := (wideChecker.check r env {}).1.1
    let best := check (outOfService known held known)
    let without := check (outOfService known (answering 500 "\x7b") (.lost 0))
    let abroad := check (outOfService (.lost 0) held known)
    without = { best.withTimesOf without with
      tunnelAsn := "", tunnelOrg := "", upstreamSeenIp := none } ∧
    abroad = { best.withTimesOf abroad with machineIp := "", tunnelActive := true } ∧
    best.tunnelAsn = "AS1" ∧ best.upstreamSeenIp = some "192.0.2.1" ∧
    best.lastError = some "p: unexpected status 503 Service Unavailable" := by
  intro known held r check best without abroad
  let o (env : Environment) := wideChecker.outcomes r env {}
  -- in all of them the tunnel shows its address, and the provider answers with its status
  have hcounts : ∀ {env env' : Environment} {ip : String} {status : Nat},
      ((o env).tunnelIp.toOption, (o env).answer.toOption) = (some ip, some status) →
      ((o env').tunnelIp.toOption, (o env').answer.toOption) = (some ip, some status) →
      (o env).tunnelIp = (o env').tunnelIp ∧ (o env).answer = (o env').answer := by
    intro env env' ip status h h'
    rw [eq_ok_of_toOption (congrArg Prod.fst h), eq_ok_of_toOption (congrArg Prod.fst h'),
      eq_ok_of_toOption (congrArg Prod.snd h), eq_ok_of_toOption (congrArg Prod.snd h')]
    exact ⟨rfl, rfl⟩
  have hbest : ((o (outOfService known held known)).tunnelIp.toOption,
      (o (outOfService known held known)).answer.toOption) = (some "198.51.100.7", some 503) := by
    decide +kernel
  have hnothing : ((o (outOfService known (answering 500 "\x7b") (.lost 0))).tunnelIp.toOption,
      (o (outOfService known (answering 500 "\x7b") (.lost 0))).answer.toOption) =
        (some "198.51.100.7", some 503) := by
    decide +kernel
  have hmissing : ((o (outOfService (.lost 0) held known)).tunnelIp.toOption,
      (o (outOfService (.lost 0) held known)).answer.toOption) =
        (some "198.51.100.7", some 503) := by
    decide +kernel
  obtain ⟨htunnel, hanswer⟩ := hcounts hbest hnothing
  obtain ⟨htunnel', hanswer'⟩ := hcounts hbest hmissing
  have hname : wideChecker.provider.name = wideChecker.provider.name := rfl
  obtain ⟨hwithout, -⟩ := lookups_apart hname r r
    (outOfService known held known) (outOfService known (answering 500 "\x7b") (.lost 0)) {} {}
  obtain ⟨-, -, -, -, habroad⟩ := lookups_apart hname r r
    (outOfService known held known) (outOfService (.lost 0) held known) {} {}
  have hseen : (o (outOfService known held known)).seenIp.toOption = some "192.0.2.1" ∧
      (o (outOfService (.lost 0) held known)).seenIp.toOption = some "192.0.2.1" := by
    decide +kernel
  refine ⟨(hwithout (by decide +kernel) htunnel hanswer).trans ?_,
    (habroad htunnel' (by decide +kernel) ?_ hanswer').trans ?_, by decide +kernel,
    by decide +kernel, by decide +kernel⟩
  · have hnothing : without.tunnelAsn = "" ∧ without.tunnelOrg = "" ∧
        without.upstreamSeenIp = none := by
      decide +kernel
    obtain ⟨hasn, horg, hnone⟩ := hnothing
    rw [hasn, horg, hnone]
  · rw [eq_ok_of_toOption hseen.1, eq_ok_of_toOption hseen.2]
  · have hmissing : abroad.machineIp = "" ∧ abroad.tunnelActive = true := by decide +kernel
    obtain ⟨hip, hactive⟩ := hmissing
    rw [hip, hactive]

end EgressWatch.Probe
