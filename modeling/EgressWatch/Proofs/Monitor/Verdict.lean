import EgressWatch.Proofs.Monitor.Trial

/-!
# What a status decides

The page that the fetch for a segment comes to is refused if its status is from 400 to 599. Every
other status admits the body: 200 as well as 302 with no place to go to, 199 as well as 700. What is
admitted makes a segment if it is completed, and what is read of it is counted:

> `Decided limit page segment before after`: a page that is refused makes no segment and counts
> nothing, and one that is admitted makes one if it completes in time, and counts what was read.

So a status that tells of no success does not make a segment fail. One that is not admitted does,
and so does a body that is not completed; from outside the two can be told apart by the counter,
unless what was read is a multiple of all that a word can count (`addSpeedTest_eq_self_iff`).

`segments_by_status` says it of both segments of a speed test, each by the page that its own fetch
comes to, whatever comes of the other one. `documents_elsewhere_counted` is a test of two documents
that are elsewhere, without a word where: it has two segments and tells no fault.
-/

namespace EgressWatch.Monitor

open Net Probe Store Time

/-- What comes of a segment whose fetch has come to a page. -/
structure Decided (limit : Span) (page : Page) (segment : Option Segment)
    (before after : Counters) : Prop where
  refused : page.Rejected → segment = none ∧ after = before
  admitted : ¬ page.Rejected → (segment.isSome ↔ page.Completes limit) ∧
    after = before.addSpeedTest (UInt64.ofNat (page.bytesBefore limit))
  /-- There is no segment and nothing is counted. -/
  nothing : segment = none ∧ after = before ↔
    page.Rejected ∨ ¬ page.Completes limit ∧ 2 ^ 64 ∣ page.bytesBefore limit

theorem addSpeedTest_eq_self_iff {c : Counters} {n : Nat} :
    c.addSpeedTest (UInt64.ofNat n) = c ↔ 2 ^ 64 ∣ n := by
  have hword : UInt64.ofNat n = 0 ↔ 2 ^ 64 ∣ n := by
    rw [← UInt64.toNat_inj, UInt64.toNat_ofNat', Nat.dvd_iff_mod_eq_zero]
    rfl
  rw [← hword]
  constructor
  · intro h
    have hsum : c.speedTest + UInt64.ofNat n = c.speedTest := congrArg Counters.speedTest h
    simpa using hsum
  · intro h
    simp [Counters.addSpeedTest, h]

theorem Yields.decided {limit : Span} {page : Page} {segment : Option Segment}
    {before after : Counters} (h : Yields limit (.ok page) segment)
    (hafter : after = before.addSpeedTest (UInt64.ofNat (bytesRead limit (.ok page)))) :
    Decided limit page segment before after := by
  have hpresent : segment.isSome ↔ ¬ page.Rejected ∧ page.Completes limit :=
    h.present.trans completed_ok_iff
  have habsent : segment = none ↔ page.Rejected ∨ ¬ page.Completes limit := by
    rw [← Option.not_isSome_iff_eq_none, hpresent, not_and_or, not_not]
  have hrefused : page.Rejected → after = before := by
    intro hrejected
    rw [hafter, bytesRead, if_pos hrejected, addSpeedTest_eq_self_iff]
    exact Nat.dvd_zero _
  have hadmitted : ¬ page.Rejected →
      after = before.addSpeedTest (UInt64.ofNat (page.bytesBefore limit)) := by
    intro hrejected
    rw [hafter, bytesRead, if_neg hrejected]
  refine ⟨fun hrejected => ?_, fun hrejected => ?_, ?_⟩
  · exact ⟨habsent.mpr (.inl hrejected), hrefused hrejected⟩
  · exact ⟨hpresent.trans (and_iff_right hrejected), hadmitted hrejected⟩
  · by_cases hrejected : page.Rejected
    · simp [habsent, hrejected, hrefused]
    · rw [habsent, hadmitted hrejected, addSpeedTest_eq_self_iff]
      simp [hrejected]

/-- Each segment is decided by the page that its fetch comes to, whatever comes of the other one. A
status from 400 to 599 refuses it, and every other status admits it. The first fault is told. -/
theorem segments_by_status (m : Monitor) (token : Option String) (env : Environment)
    (trail : Trail) :
    let start := m.firstSegment env trail
    let probe := (m.probeSpeedTest token env trail).1
    (∀ page, m.tester.egressOrder.ComesTo env { trail with readings := trail.readings + 1 } page →
      Decided egressLimit page probe.1.localEgress m.counters start.1.counters ∧
      ∀ fault, faultOf? egressLimit (.ok page) = some fault →
        probe.1.error = some ("egress: " ++ fault.message)) ∧
    ∀ shown, usableToken token = some shown → ∀ page,
      (m.tester.upstreamOrder shown).ComesTo env start.2 page →
      Decided upstreamLimit page probe.1.upstream start.1.counters probe.2.counters ∧
      ∀ fault, faultOf? upstreamLimit (.ok page) = some fault → probe.1.localEgress.isSome →
        probe.1.error = some (m.tester.provider.name ++ ": " ++ fault.message) := by
  intro start probe
  obtain ⟨htold, -⟩ := m.told_trial env trail token
  have hstart : start.1.Fits egressLimit (m.trial token env trail).egress m.counters :=
    m.tester.fits_runEgress m.resolver m.counters env { trail with readings := trail.readings + 1 }
  constructor
  · intro page hcomes
    have hpage : (m.trial token env trail).egress = .ok page :=
      (m.tester.egressOrder.fetch_eq_ok_iff env _ page).mpr hcomes
    have hyields := htold.egress
    rw [hpage] at hyields
    refine ⟨hyields.decided (hpage ▸ hstart.counters), fun fault hfault => ?_⟩
    obtain ⟨fault', hfault', herror⟩ := htold.egressFault (hyields.absent hfault)
    rw [hpage] at hfault'
    rwa [← Option.some.inj (hfault'.symm.trans hfault)]
  · intro shown husable page hcomes
    have hpage : ((m.tester.upstreamOrder shown).fetch env start.2).1 = .ok page :=
      ((m.tester.upstreamOrder shown).fetch_eq_ok_iff env _ page).mpr hcomes
    have hfetched : (m.trial token env trail).upstream = some (.ok page) := by
      rw [← hpage, trial, husable]
      rfl
    have hyields : Yields upstreamLimit (.ok page) probe.1.upstream := htold.upstream _ hfetched
    have hcounters := m.counters_probeSpeedTest_shown env trail husable
    refine ⟨hyields.decided (hpage ▸ hcounters), fun fault hfault hegress => ?_⟩
    obtain ⟨fault', hfault', herror⟩ :=
      htold.upstreamFault hegress (hyields.absent hfault) _ hfetched
    rwa [← Option.some.inj (hfault'.symm.trans hfault)]

theorem exists_comesTo {o : Order} {env : Environment} {trail : Trail} {code : Nat}
    (h : (o.fetch env trail).1.toOption.map (·.response.status) = some code) :
    ∃ page, o.ComesTo env trail page ∧ page.response.status = code := by
  obtain ⟨page, hpage, hcode⟩ := Option.map_eq_some_iff.mp h
  exact ⟨page, (o.fetch_eq_ok_iff env trail page).mp (eq_ok_of_toOption hpage), hcode⟩

/-- A response that says that the document is elsewhere, but not where. -/
def nowhere : Response :=
  { wait := 0, status := 302, phrase := "Found", chunks := [⟨0, [109, 111, 118, 101, 100]⟩] }

/-- A response that says that there is no such document. -/
def missing : Response :=
  { wait := 0, status := 404, phrase := "Not Found", chunks := [⟨0, [110, 111]⟩] }

/-- What is missing for the first segment is refused, and its fault is told. That the document for
the second one is elsewhere does not matter. -/
theorem segments_by_status_missing_first :
    let env := byToken missing nowhere
    let start := (oneServerMonitor .direct).firstSegment env {}
    let probe := ((oneServerMonitor .direct).probeSpeedTest (some "t") env {}).1
    (∃ page, (oneServerMonitor .direct).tester.egressOrder.ComesTo env { readings := 1 } page ∧
      page.response.status = 404 ∧ probe.1.localEgress = none ∧
      start.1.counters = (oneServerMonitor .direct).counters ∧
      ∃ fault, faultOf? egressLimit (.ok page) = some fault ∧
        probe.1.error = some ("egress: " ++ fault.message)) ∧
    usableToken (some "t") = some "t" ∧
    ∃ page, ((oneServerMonitor .direct).tester.upstreamOrder "t").ComesTo env start.2 page ∧
      page.response.status = 302 ∧
      Decided upstreamLimit page probe.1.upstream start.1.counters probe.2.counters := by
  intro env start probe
  obtain ⟨hegress, hupstream⟩ := segments_by_status (oneServerMonitor .direct) (some "t") env {}
  obtain ⟨page, hcomes, hcode⟩ :
      ∃ page, (oneServerMonitor .direct).tester.egressOrder.ComesTo env { readings := 1 } page ∧
        page.response.status = 404 := exists_comesTo (by decide +kernel)
  obtain ⟨page', hcomes', hcode'⟩ :
      ∃ page, ((oneServerMonitor .direct).tester.upstreamOrder "t").ComesTo env start.2 page ∧
        page.response.status = 302 := exists_comesTo (by decide +kernel)
  have hrejected : page.Rejected := by simp [Page.Rejected, hcode]
  have hfault : faultOf? egressLimit (.ok page) =
      some (.rejected page.response.status page.response.phrase page.url) := if_pos hrejected
  obtain ⟨hdecided, htold⟩ := hegress page hcomes
  obtain ⟨hnone, hcounters⟩ := hdecided.refused hrejected
  refine ⟨⟨page, hcomes, hcode, hnone, hcounters, _, hfault, htold _ hfault⟩, by decide +kernel, ?_⟩
  exact ⟨page', hcomes', hcode', (hupstream "t" (by decide +kernel) page' hcomes').1⟩

/-- Two documents that are elsewhere make two segments without a fault, and all that their responses
say is counted. -/
theorem documents_elsewhere_counted :
    let env := byToken nowhere nowhere
    let start := (oneServerMonitor .direct).firstSegment env {}
    let probe := ((oneServerMonitor .direct).probeSpeedTest (some "t") env {}).1
    (∃ page, (oneServerMonitor .direct).tester.egressOrder.ComesTo env { readings := 1 } page ∧
      page.response.status = 302) ∧
    (∃ page, ((oneServerMonitor .direct).tester.upstreamOrder "t").ComesTo env start.2 page ∧
      page.response.status = 302) ∧
    probe.1.localEgress.isSome ∧ probe.1.upstream.isSome ∧ probe.1.error = none ∧
    (oneServerMonitor .direct).counters.speedTest = 0 ∧ probe.2.counters.speedTest = 10 := by
  intro env start probe
  refine ⟨exists_comesTo (by decide +kernel), exists_comesTo (by decide +kernel), ?_⟩
  decide +kernel

end EgressWatch.Monitor
