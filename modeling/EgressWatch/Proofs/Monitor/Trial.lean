import EgressWatch.Proofs.Monitor.Credential
import EgressWatch.Proofs.Probe.Download

/-!
# Speed tests and the byte counter

A speed test fetches once for its first segment and, with a token, once more for the second one. A
`Trial` is a test with what these fetches have come to, and `Trial.Told` says what the test tells of
them: of each segment what its own fetch makes of it (`Yields`), the latencies of those that it has
added up, and one failure at most, the first. A segment is there exactly if its download is
completed, and the other one has no say in it.

The counter knows nothing of segments: it takes in every byte that is read (`Trial.read`), also of
downloads that come to nothing (`Trial.lost`). Over a run it grows by what all downloads have read:

> `speed_tests_counted`: the counter is what it was and all bytes read, up to multiples of 2 ^ 64,
> which are those that the segments tell and those that were lost.

One test is told from what its two downloads have come to (`told_summary`), which the module on
downloads has for each of them by itself; `told_trial` puts in what a probe does, with a token and
without. That a sum of latencies does not start over takes a look at their limits
(`toNat_totalLatency`). `Accounts` says what speed tests make of a site, and is carried through a
run by `Accounts.append`: one step (`accounts_perform`), then the others (`accounts_run`), whatever
is asked for in between.
-/

namespace EgressWatch

open Net Probe Store Time

/-- A word that has taken in any number of bytes has started over past the largest. -/
theorem Counters.toNat_speedTest_addSpeedTest (c : Counters) (n : Nat) :
    (c.addSpeedTest (UInt64.ofNat n)).speedTest.toNat = (c.speedTest.toNat + n) % 2 ^ 64 := by
  rw [addSpeedTest, UInt64.toNat_add, UInt64.toNat_ofNat', Nat.add_mod_mod]

namespace Monitor

/-! ## One speed test -/

/-- A speed test, and what its fetches have come to. -/
structure Trial where
  token : Option String
  test : SpeedTest
  egress : Except FetchFault Page
  /-- Nothing if nothing was fetched for the second segment. -/
  upstream : Option (Except FetchFault Page)

/-- The segments that a speed test has. -/
def segments (test : SpeedTest) : List Segment := test.localEgress.toList ++ test.upstream.toList

namespace Trial

variable (t : Trial)

/-- How many bytes were read. -/
def read : Nat :=
  bytesRead egressLimit t.egress + (t.upstream.map (bytesRead upstreamLimit)).getD 0

/-- How many of them were read by downloads that make no segment. -/
def lost : Nat :=
  (if t.test.localEgress.isSome then 0 else bytesRead egressLimit t.egress) +
    if t.test.upstream.isSome then 0 else (t.upstream.map (bytesRead upstreamLimit)).getD 0

end Trial

/-- Tests the speed. The fetches are those that the test makes, each with all that was sent before
it. -/
def trial (m : Monitor) (token : Option String) (env : Environment) (trail : Trail) : Trial where
  token
  test := (m.probeSpeedTest token env trail).1.1
  egress := (m.tester.egressOrder.fetch env { trail with readings := trail.readings + 1 }).1
  upstream := (usableToken token).map fun shown =>
    ((m.tester.upstreamOrder shown).fetch env (m.firstSegment env trail).2).1

/-- A fetch yields a segment if its download is completed, and then the segment tells how many bytes
all chunks have. -/
structure Yields (limit : Span) (outcome : Except FetchFault Page) (segment : Option Segment) :
    Prop where
  present : segment.isSome ↔ Completed limit outcome
  bytes : ∀ s ∈ segment, ∃ page, outcome = .ok page ∧
    s.bytes = UInt64.ofNat (page.response.chunks.map (·.bytes.length)).sum
  latency : ∀ s ∈ segment, s.latency.toNat * 1000000 < limit.nanoseconds

/-- What a speed test with the provider `name` tells of its fetches. -/
structure Trial.Told (name : String) (t : Trial) : Prop where
  attempted : t.upstream.isSome ↔ ∃ shown, t.token = some shown ∧ shown ≠ ""
  egress : Yields egressLimit t.egress t.test.localEgress
  upstream : ∀ outcome, t.upstream = some outcome → Yields upstreamLimit outcome t.test.upstream
  withheld : t.upstream = none → t.test.upstream = none
  latency : t.test.totalLatency.toNat = ((segments t.test).map (·.latency.toNat)).sum
  faultless : t.test.error = none ↔
    t.test.localEgress.isSome ∧ (t.upstream.isSome → t.test.upstream.isSome)
  egressFault : t.test.localEgress = none → ∃ fault, faultOf? egressLimit t.egress = some fault ∧
    t.test.error = some ("egress: " ++ fault.message)
  upstreamFault : t.test.localEgress.isSome → t.test.upstream = none →
    ∀ outcome, t.upstream = some outcome → ∃ fault, faultOf? upstreamLimit outcome = some fault ∧
      t.test.error = some (name ++ ": " ++ fault.message)

theorem usableToken_eq_some_iff {token : Option String} {shown : String} :
    usableToken token = some shown ↔ token = some shown ∧ shown ≠ "" := by
  simp [usableToken, Option.filter_eq_some_iff]

/-- A sum of words does not start over if it is no larger than a word can be. -/
theorem toNat_foldl_add {ws : List UInt64} {w : UInt64}
    (h : w.toNat + (ws.map UInt64.toNat).sum < 2 ^ 64) :
    (ws.foldl (· + ·) w).toNat = w.toNat + (ws.map UInt64.toNat).sum := by
  induction ws generalizing w with
  | nil => simp
  | cons v ws ih =>
    rw [List.map_cons, List.sum_cons] at h ⊢
    have hsum : (w + v).toNat = w.toNat + v.toNat := by
      rw [UInt64.toNat_add, Nat.mod_eq_of_lt (by omega)]
    rw [List.foldl_cons, ih (by omega), hsum]
    omega

section Telling

variable {limit : Span} {outcome : Except FetchFault Page} {before : Counters} {run : SegmentRun}

/-- What comes of a segment is what its fetch yields. -/
theorem yields_of_fits (h : run.Fits limit outcome before) :
    Yields limit outcome run.result.toOption := by
  have hsegment : ∀ s ∈ run.result.toOption, run.result = .ok s := fun s hs => eq_ok_of_toOption hs
  refine ⟨h.isSome_iff, fun s hs => ?_, fun s hs => h.latency s (hsegment s hs)⟩
  have hcompleted : Completed limit outcome :=
    h.isSome_iff.mp (Option.isSome_iff_exists.mpr ⟨s, hs⟩)
  obtain ⟨page, houtcome, hbytes⟩ := hcompleted.bytesRead
  exact ⟨page, houtcome, by rw [h.bytes s (hsegment s hs), hbytes]⟩

/-- The bytes of a segment are those that were read, and without a segment they are lost. -/
theorem Yields.ofNat_read {segment : Option Segment} (h : Yields limit outcome segment) :
    UInt64.ofNat (bytesRead limit outcome) =
      UInt64.ofNat ((segment.toList.map (·.bytes.toNat)).sum +
        if segment.isSome then 0 else bytesRead limit outcome) := by
  cases segment with
  | none => simp
  | some s =>
    obtain ⟨page, houtcome, hbytes⟩ := h.bytes s rfl
    obtain ⟨page', houtcome', hread⟩ := (h.present.mp rfl).bytesRead
    obtain rfl : page = page' := Except.ok.inj (houtcome.symm.trans houtcome')
    rw [hread, ← hbytes]
    simp

/-- There is a segment exactly if its fetch has no fault. -/
theorem Yields.faultless_iff {segment : Option Segment} (h : Yields limit outcome segment) :
    faultOf? limit outcome = none ↔ segment.isSome :=
  (faultOf?_eq_none_iff limit outcome).trans h.present.symm

/-- Without a segment its fetch has a fault. -/
theorem Yields.fault {segment : Option Segment} (h : Yields limit outcome segment)
    (hnone : segment = none) : ∃ fault, faultOf? limit outcome = some fault := by
  refine Option.ne_none_iff_exists'.mp fun hfault => ?_
  have hsome := h.faultless_iff.mp hfault
  rw [hnone] at hsome
  exact absurd hsome nofun

/-- If its fetch has a fault there is no segment. -/
theorem Yields.absent {segment : Option Segment} (h : Yields limit outcome segment)
    {fault : FetchFault} (hfault : faultOf? limit outcome = some fault) : segment = none := by
  rw [← Option.not_isSome_iff_eq_none]
  intro hsome
  exact absurd ((h.faultless_iff.mpr hsome).symm.trans hfault) nofun

end Telling

/-- The latencies of the segments are added up exactly. -/
theorem toNat_totalLatency {test : SpeedTest} (egress upstream : Span)
    (hegress : ∀ s ∈ test.localEgress, s.latency.toNat * 1000000 < egress.nanoseconds)
    (hupstream : ∀ s ∈ test.upstream, s.latency.toNat * 1000000 < upstream.nanoseconds)
    (hlimits : egress.nanoseconds + upstream.nanoseconds < 2 ^ 64)
    (htotal : test.totalLatency = ((segments test).map (·.latency)).foldl (· + ·) 0) :
    test.totalLatency.toNat = ((segments test).map (·.latency.toNat)).sum := by
  have hmap : ((segments test).map (·.latency)).map UInt64.toNat =
      (segments test).map (·.latency.toNat) := List.map_map
  have hone : ∀ {segment : Option Segment} {limit : Span},
      (∀ s ∈ segment, s.latency.toNat * 1000000 < limit.nanoseconds) →
        (segment.toList.map (·.latency.toNat)).sum * 1000000 ≤ limit.nanoseconds := by
    intro segment limit h
    cases segment with
    | none => simp
    | some s => simpa using Nat.le_of_lt (h s rfl)
  have hbound : ((segments test).map (·.latency.toNat)).sum < 2 ^ 64 := by
    have hl := hone hegress
    have hu := hone hupstream
    rw [segments, List.map_append, List.sum_append]
    omega
  rw [htotal, toNat_foldl_add, hmap]
  · exact Nat.zero_add _
  · rw [hmap]
    exact (Nat.zero_add _).trans_lt hbound

/-- What a test tells of its fetches, given its segments and which of the faults it takes. -/
theorem Trial.told_of_error {name : String} {t : Trial}
    (hattempted : t.upstream.isSome ↔ ∃ shown, t.token = some shown ∧ shown ≠ "")
    (hegress : Yields egressLimit t.egress t.test.localEgress)
    (hupstream : ∀ outcome, t.upstream = some outcome →
      Yields upstreamLimit outcome t.test.upstream)
    (hwithheld : t.upstream = none → t.test.upstream = none)
    (htotal : t.test.totalLatency = ((segments t.test).map (·.latency)).foldl (· + ·) 0)
    (herror : t.test.error =
      ((faultOf? egressLimit t.egress).map fun fault => "egress: " ++ fault.message).or
        ((t.upstream.bind (faultOf? upstreamLimit)).map fun fault =>
          name ++ ": " ++ fault.message)) : t.Told name := by
  have hlatency : ∀ s ∈ t.test.upstream,
      s.latency.toNat * 1000000 < upstreamLimit.nanoseconds := by
    intro s hs
    cases houtcome : t.upstream with
    | none => exact absurd (hs.symm.trans (hwithheld houtcome)) (by simp)
    | some outcome => exact (hupstream outcome houtcome).latency s hs
  have hfaultless : t.upstream.bind (faultOf? upstreamLimit) = none ↔
      (t.upstream.isSome → t.test.upstream.isSome) := by
    cases houtcome : t.upstream with
    | none => simp
    | some outcome => simpa using (hupstream outcome houtcome).faultless_iff
  refine ⟨hattempted, hegress, hupstream, hwithheld, ?_, ?_, fun hl => ?_,
    fun hl hu outcome houtcome => ?_⟩
  · exact toNat_totalLatency egressLimit upstreamLimit hegress.latency hlatency (by decide) htotal
  · rw [herror, Option.or_eq_none_iff, Option.map_eq_none_iff, Option.map_eq_none_iff,
      hegress.faultless_iff, hfaultless]
  · obtain ⟨fault, hfault⟩ := hegress.fault hl
    exact ⟨fault, hfault, by rw [herror, hfault]; rfl⟩
  · obtain ⟨fault, hfault⟩ := (hupstream outcome houtcome).fault hu
    refine ⟨fault, hfault, ?_⟩
    rw [herror, hegress.faultless_iff.mpr hl, houtcome, Option.bind_some, hfault]
    rfl

/-- A summary tells what its segments have come to. -/
theorem told_summary {t : Trial} {tester : Tester} (now : Instant) {before : Counters}
    (between : Counters) {egress : SegmentRun}
    (upstream : Option (Except FetchFault Page × SegmentRun))
    (hattempted : t.upstream.isSome ↔ ∃ shown, t.token = some shown ∧ shown ≠ "")
    (hegress : egress.Fits egressLimit t.egress before)
    (hupstream : ∀ u ∈ upstream, u.2.Fits upstreamLimit u.1 between)
    (hfetched : t.upstream = upstream.map (·.1))
    (htest : t.test = tester.summary now egress.result (upstream.map (·.2.result))) :
    t.Told tester.provider.name := by
  refine Trial.told_of_error hattempted ?_ (fun outcome houtcome => ?_) (fun hnone => ?_) ?_ ?_
  · rw [htest]
    exact yields_of_fits hegress
  · obtain ⟨u, hu, rfl⟩ := Option.map_eq_some_iff.mp (hfetched.symm.trans houtcome)
    rw [htest, hu]
    exact yields_of_fits (hupstream u hu)
  · rw [htest, Option.map_eq_none_iff.mp (hfetched.symm.trans hnone)]
    rfl
  · rw [htest]
    rfl
  · have hprefix : "egress" ++ ": " = "egress: " := by decide
    have hfar : (upstream.map (·.2.result)).bind (Tester.failure? tester.provider.name) =
        ((upstream.map (·.1)).bind (faultOf? upstreamLimit)).map fun fault =>
          tester.provider.name ++ ": " ++ fault.message := by
      cases upstream with
      | none => rfl
      | some u => exact (hupstream u rfl).failure?_eq _
    rw [htest, hfetched, Tester.summary, hegress.failure?_eq, hprefix, hfar]

section Test

variable (m : Monitor) (env : Environment) (trail : Trail)

/-- What a speed test counts after its first segment is what the second download reads. -/
theorem counters_probeSpeedTest_shown {token : Option String} {shown : String}
    (h : usableToken token = some shown) :
    (m.probeSpeedTest token env trail).1.2.counters =
      (m.firstSegment env trail).1.counters.addSpeedTest (UInt64.ofNat (bytesRead upstreamLimit
        ((m.tester.upstreamOrder shown).fetch env (m.firstSegment env trail).2).1)) :=
  (congrArg (·.1.2.counters) (probeSpeedTest_shown m env trail h)).trans
    (m.tester.fits_runUpstream _ _ env _ shown).counters

/-- A speed test counts all bytes that it reads, and tells of its fetches what there is to tell. -/
theorem told_trial (token : Option String) :
    (m.trial token env trail).Told m.tester.provider.name ∧
      (m.probeSpeedTest token env trail).1.2.counters =
        m.counters.addSpeedTest (UInt64.ofNat (m.trial token env trail).read) := by
  have hegress : (m.firstSegment env trail).1.Fits egressLimit
      (m.trial token env trail).egress m.counters :=
    m.tester.fits_runEgress m.resolver m.counters env { trail with readings := trail.readings + 1 }
  have hattempted : (m.trial token env trail).upstream.isSome ↔
      ∃ shown, token = some shown ∧ shown ≠ "" := by
    simp only [trial, Option.isSome_map, Option.isSome_iff_exists, usableToken_eq_some_iff]
  cases husable : usableToken token with
  | none =>
    have hfetched : (m.trial token env trail).upstream = none := by
      rw [trial, husable]
      rfl
    have hprobe := probeSpeedTest_withheld m env trail husable
    refine ⟨told_summary (env.clock trail.readings) m.counters none hattempted hegress (by simp)
      hfetched (congrArg (·.1.1) hprobe), ?_⟩
    rw [hprobe, Trial.read, hfetched]
    exact hegress.counters
  | some shown =>
    have hupstream := m.tester.fits_runUpstream (m.firstSegment env trail).1.resolver
      (m.firstSegment env trail).1.counters env (m.firstSegment env trail).2 shown
    have hfetched : (m.trial token env trail).upstream =
        some ((m.tester.upstreamOrder shown).fetch env (m.firstSegment env trail).2).1 := by
      rw [trial, husable]
      rfl
    have hprobe := probeSpeedTest_shown m env trail husable
    refine ⟨told_summary (env.clock trail.readings) (m.firstSegment env trail).1.counters
      (some (_, _)) hattempted hegress ?_ hfetched (congrArg (·.1.1) hprobe), ?_⟩
    · rintro u ⟨⟩
      exact hupstream
    · rw [counters_probeSpeedTest_shown m env trail husable, hegress.counters, Trial.read, hfetched]
      simp [Counters.addSpeedTest, UInt64.ofNat_add, UInt64.add_assoc]

end Test

/-- The segments of a speed test and what was lost are all that was read. -/
theorem Trial.Told.ofNat_read {name : String} {t : Trial} (h : t.Told name) :
    UInt64.ofNat t.read =
      UInt64.ofNat (((segments t.test).map (·.bytes.toNat)).sum + t.lost) := by
  have hegress := h.egress.ofNat_read
  have hupstream : UInt64.ofNat ((t.upstream.map (bytesRead upstreamLimit)).getD 0) =
      UInt64.ofNat ((t.test.upstream.toList.map (·.bytes.toNat)).sum +
        if t.test.upstream.isSome then 0
        else (t.upstream.map (bytesRead upstreamLimit)).getD 0) := by
    cases houtcome : t.upstream with
    | none =>
      rw [h.withheld houtcome]
      rfl
    | some outcome => exact (h.upstream outcome houtcome).ofNat_read
  rw [Trial.read, UInt64.ofNat_add, hegress, hupstream, ← UInt64.ofNat_add, Nat.add_add_add_comm,
    segments, List.map_append, List.sum_append]
  rfl

/-! ## Runs -/

/-- The speed test that is found. -/
def Finding.speedTest? : Finding → Option SpeedTest
  | .snapshot (.speedTest t) => some t
  | .snapshot (.status _) => none
  | .address _ => none

/-- The speed tests among what is asked for, each at its place in the run. -/
def trials (env : Environment) : List Demand → Site → Trail → List Trial
  | [], _, _ => []
  | demand :: demands, site, trail =>
    let later := trials env demands (site.perform demand env trail).1
      (site.perform demand env trail).2
    match demand with
    | .speedTest token _ => site.monitor.trial token env trail :: later
    | .status _ => later
    | .machineIp => later

/-- A site comes out of another one after speed tests. -/
structure Accounts (site : Site) (ts : List Trial) (site' : Site) : Prop where
  found : site'.found.filterMap Finding.speedTest? =
    site.found.filterMap Finding.speedTest? ++ ts.map (·.test)
  tester : site'.monitor.tester = site.monitor.tester
  told : ∀ t ∈ ts, t.Told site.monitor.tester.provider.name
  counters : site'.monitor.counters =
    site.monitor.counters.addSpeedTest (UInt64.ofNat (ts.map Trial.read).sum)

section Accounting

variable {env : Environment} {site site' after : Site} {ts us : List Trial}

theorem Accounts.append (h : Accounts site ts site') (h' : Accounts site' us after) :
    Accounts site (ts ++ us) after := by
  refine ⟨?_, h'.tester.trans h.tester, fun t ht => ?_, ?_⟩
  · rw [h'.found, h.found, List.map_append, List.append_assoc]
  · rcases List.mem_append.mp ht with ht | ht
    · exact h.told t ht
    · exact h.tester ▸ h'.told t ht
  · rw [h'.counters, h.counters, List.map_append, List.sum_append]
    simp [Counters.addSpeedTest, UInt64.ofNat_add, UInt64.add_assoc]

/-- Without a speed test nothing is counted. -/
theorem Accounts.nothing
    (hfound : site'.found.filterMap Finding.speedTest? = site.found.filterMap Finding.speedTest?)
    (htester : site'.monitor.tester = site.monitor.tester)
    (hcounters : site'.monitor.counters = site.monitor.counters) : Accounts site [] site' := by
  refine ⟨by simpa using hfound, htester, by simp, ?_⟩
  rw [hcounters]
  simp [Counters.addSpeedTest]

/-- One step, whatever is asked for. -/
theorem accounts_perform (site : Site) (demand : Demand) (trail : Trail) :
    Accounts site (trials env [demand] site trail) (site.perform demand env trail).1 := by
  cases demand with
  | status keep => exact .nothing (by simp [Finding.speedTest?]) rfl rfl
  | machineIp => exact .nothing (by simp [Finding.speedTest?]) rfl rfl
  | speedTest token keep =>
    obtain ⟨htold, hcounters⟩ := site.monitor.told_trial env trail token
    rw [Site.perform_speedTest]
    refine ⟨by simp [trials, trial, Finding.speedTest?], rfl, ?_, ?_⟩
    · intro t ht
      rw [List.mem_singleton.mp ht]
      exact htold
    · simpa [trials] using hcounters

/-- A run. -/
theorem accounts_run (demands : List Demand) (site : Site) (trail : Trail) :
    Accounts site (trials env demands site trail)
      (demands.foldlM Site.perform site env trail).1 := by
  -- on what is asked for, at every site and after every trail
  induction demands generalizing site trail with
  | nil => exact .nothing rfl rfl rfl
  | cons demand demands ih =>
    have hsplit : trials env (demand :: demands) site trail = trials env [demand] site trail ++
        trials env demands (site.perform demand env trail).1
          (site.perform demand env trail).2 := by
      cases demand <;> rfl
    rw [List.foldlM_cons, Action.run_bind, hsplit]
    exact (accounts_perform site demand trail).append (ih _ _)

/-- What several speed tests have read is in their segments or lost. -/
theorem ofNat_read_sum {name : String} (h : ∀ t ∈ ts, t.Told name) :
    UInt64.ofNat (ts.map Trial.read).sum =
      UInt64.ofNat (((ts.flatMap (segments ·.test)).map (·.bytes.toNat)).sum +
        (ts.map Trial.lost).sum) := by
  induction ts with
  | nil => rfl
  | cons t ts ih =>
    obtain ⟨ht, hts⟩ := List.forall_mem_cons.mp h
    rw [List.map_cons, List.sum_cons, UInt64.ofNat_add, ht.ofNat_read, ih hts, ← UInt64.ofNat_add,
      Nat.add_add_add_comm, List.flatMap_cons, List.map_append, List.sum_append, List.map_cons,
      List.sum_cons]

end Accounting

/-- Every speed test of a run tells of its fetches what there is to tell, and the counter grows by
all bytes that the tests have read, those of their segments and those that were lost, starting over
past the largest word. The other counters stay as they are. -/
theorem speed_tests_counted (m : Monitor) (d : Database) (env : Environment) (trail : Trail)
    (demands : List Demand) :
    let site := (demands.foldlM Site.perform ⟨m, d, []⟩ env trail).1
    let ts := trials env demands ⟨m, d, []⟩ trail
    let counters := site.monitor.counters
    let transferred := ((ts.flatMap (segments ·.test)).map (·.bytes.toNat)).sum
    site.found.filterMap Finding.speedTest? = ts.map (·.test) ∧
      (∀ t ∈ ts, t.Told m.tester.provider.name) ∧
      counters.speedTest.toNat =
        (m.counters.speedTest.toNat + (ts.map Trial.read).sum) % 2 ^ 64 ∧
      counters.speedTest.toNat =
        (m.counters.speedTest.toNat + (transferred + (ts.map Trial.lost).sum)) % 2 ^ 64 ∧
      counters.inbound = m.counters.inbound ∧ counters.outbound = m.counters.outbound ∧
      counters.startedAt = m.counters.startedAt := by
  intro site ts counters transferred
  have h : Accounts ⟨m, d, []⟩ ts site := accounts_run demands _ trail
  have hcounters : counters = m.counters.addSpeedTest _ := h.counters
  have hinbound := congrArg Counters.inbound hcounters
  have houtbound := congrArg Counters.outbound hcounters
  have hstarted := congrArg Counters.startedAt hcounters
  refine ⟨h.found, h.told, ?_, ?_, hinbound, houtbound, hstarted⟩
  · rw [hcounters, Counters.toNat_speedTest_addSpeedTest]
  · rw [hcounters, ofNat_read_sum h.told, Counters.toNat_speedTest_addSpeedTest]

/-- A network with one response to requests that show a token, and another to all others, at an
instant at which time stands still. -/
def byToken (plain shown : Response) : Environment where
  network requests :=
    .response (if requests.head?.any (·.authorization != []) then shown else plain)
  clock _ := .epoch

/-- A body of five bytes in two chunks arrives for the first segment, and for the second one four
bytes of a body that is cut short. The test tells five bytes, and nine are counted. -/
example :
    let whole : Response := { wait := 0, status := 200, phrase := "OK",
                              chunks := [⟨0, [1, 2, 3]⟩, ⟨0, [4, 5]⟩] }
    let cut : Response := { wait := 0, status := 200, phrase := "OK",
                            chunks := [⟨0, [1, 2, 3, 4]⟩], complete := false }
    let (test, m) := ((oneServerMonitor .direct).probeSpeedTest (some "t") (byToken whole cut) {}).1
    test.localEgress.map (·.bytes) = some 5 ∧ test.upstream.isSome = false ∧
      test.error = some "realdebrid: error decoding response body" ∧ m.counters.speedTest = 9 := by
  decide +kernel

end Monitor

end EgressWatch
