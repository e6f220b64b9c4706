import EgressWatch.Proofs.Net.Final
import EgressWatch.Proofs.Probe.Speed

/-!
# What downloads come to

Each part of a body arrives at some time, counted from the first request of its fetch (`arrivals`).
A download reads the parts that arrive before its limit, and it is completed if these are all parts
and the body ends as announced (`Page.Completes`). A status that tells of an error ends a download
before any of the body is read (`Page.Rejected`).

All that a download tells is decided by the outcome of its fetch: whether it is completed
(`Completed`), how many bytes it reads (`bytesRead`), and its fault if it has one (`faultOf?`).

> `Download.Fits limit outcome d`: `d` tells what its fetch has come to.

Reading goes on until a part comes too late, while `arrivedBefore` picks the parts that come in
time; that the two are the same is `arriving_spec`, as no part comes before one that stands before
it. From there it is a look at each way in which a fetch can end (`Download.fits_ofPage`,
`fits_download`).

Both segments of a speed test go by this in the same way (`SegmentRun.Fits`): the fault of a segment
is that of its download, and the counter grows by what was read, whatever came of it. The two are
the same but for what they look up beside their downloads, which is why one lemma has both
(`SegmentRun.fits_of_download`, used in `fits_runEgress` and `fits_runUpstream`).
-/

namespace EgressWatch.Net

/-! ## Bodies -/

/-- The parts of a body, each with the time at which it has arrived. -/
def arrivals (start : Nat) : List Chunk → List (Nat × List UInt8)
  | [] => []
  | c :: cs =>
    (start + c.wait.nanoseconds, c.bytes) :: arrivals (start + c.wait.nanoseconds) cs

/-- The parts that have arrived before a limit. -/
def arrivedBefore (limit : Nat) (parts : List (Nat × List UInt8)) : List (List UInt8) :=
  (parts.filter fun part => part.1 < limit).map Prod.snd

theorem le_of_mem_arrivals {start : Nat} {cs : List Chunk} {part : Nat × List UInt8}
    (h : part ∈ arrivals start cs) : start ≤ part.1 := by
  induction cs generalizing start with
  | nil => exact absurd h List.not_mem_nil
  | cons c cs ih =>
    rcases List.mem_cons.mp h with rfl | h
    · exact Nat.le_add_right _ _
    · exact Nat.le_trans (Nat.le_add_right _ _) (ih h)

theorem map_snd_arrivals (start : Nat) (cs : List Chunk) :
    (arrivals start cs).map Prod.snd = cs.map (·.bytes) := by
  induction cs generalizing start with
  | nil => rfl
  | cons c cs ih => exact congrArg (c.bytes :: ·) (ih _)

/-- Taking parts in until one comes too late takes all parts that come in time, for none that comes
in time follows one that is too late. -/
theorem arriving_spec (limit waited elapsed : Time.Span) (complete : Bool) (cs : List Chunk) :
    let body := arriving (limit - waited) elapsed complete cs
    let parts := arrivals (waited.nanoseconds + elapsed.nanoseconds) cs
    body.chunks = arrivedBefore limit.nanoseconds parts ∧
      (body.whole = true ↔ complete = true ∧ ∀ part ∈ parts, part.1 < limit.nanoseconds) := by
  induction cs generalizing elapsed with
  | nil => exact ⟨rfl, by simp [arriving, arrivals]⟩
  | cons c cs ih =>
    intro body parts
    have hlate : limit - waited ≤ elapsed + c.wait ↔
        limit.nanoseconds ≤ waited.nanoseconds + elapsed.nanoseconds + c.wait.nanoseconds := by
      show limit.nanoseconds - waited.nanoseconds ≤ elapsed.nanoseconds + c.wait.nanoseconds ↔ _
      omega
    have hparts : parts =
        (waited.nanoseconds + elapsed.nanoseconds + c.wait.nanoseconds, c.bytes) ::
          arrivals (waited.nanoseconds + elapsed.nanoseconds + c.wait.nanoseconds) cs := rfl
    by_cases h : limit - waited ≤ elapsed + c.wait
    · have hbody : body = ⟨[], false, elapsed + c.wait⟩ := if_pos h
      have hall : ∀ part ∈ parts, ¬ part.1 < limit.nanoseconds := by
        intro part hpart
        rw [hparts] at hpart
        rcases List.mem_cons.mp hpart with rfl | hpart
        · exact Nat.not_lt.mpr (hlate.mp h)
        · exact Nat.not_lt.mpr (Nat.le_trans (hlate.mp h) (le_of_mem_arrivals hpart))
      have hnone : arrivedBefore limit.nanoseconds parts = [] := by
        rw [arrivedBefore, List.filter_eq_nil_iff.mpr (by simpa using hall)]
        rfl
      rw [hbody, hnone]
      refine ⟨rfl, nofun, fun hwhole => ?_⟩
      exact absurd (hwhole.2 _ (hparts ▸ List.mem_cons_self)) (hall _ (hparts ▸ List.mem_cons_self))
    · obtain ⟨hchunks, hwhole⟩ := ih (elapsed + c.wait)
      have hbody : body =
          { arriving (limit - waited) (elapsed + c.wait) complete cs with
            chunks :=
              c.bytes :: (arriving (limit - waited) (elapsed + c.wait) complete cs).chunks } :=
        if_neg h
      have hstart : waited.nanoseconds + (elapsed + c.wait).nanoseconds =
          waited.nanoseconds + elapsed.nanoseconds + c.wait.nanoseconds :=
        (Nat.add_assoc _ _ _).symm
      have hfirst : waited.nanoseconds + elapsed.nanoseconds + c.wait.nanoseconds <
          limit.nanoseconds := by
        rw [hlate] at h
        omega
      rw [hstart] at hchunks hwhole
      rw [hbody, hparts]
      refine ⟨?_, ?_⟩
      · rw [hchunks, arrivedBefore, arrivedBefore, List.filter_cons_of_pos (by simpa using hfirst)]
        rfl
      · rw [List.forall_mem_cons]
        exact hwhole.trans ⟨fun hw => ⟨hw.1, hfirst, hw.2⟩, fun hw => ⟨hw.1, hw.2.2⟩⟩

namespace Page

/-- The parts of the body with the times at which they have arrived. -/
def parts (p : Page) : List (Nat × List UInt8) :=
  arrivals p.waited.nanoseconds p.response.chunks

/-- The body ends as announced, and all of it arrives before a limit. -/
def Completes (p : Page) (limit : Time.Span) : Prop :=
  p.response.complete = true ∧ ∀ part ∈ p.parts, part.1 < limit.nanoseconds

instance (p : Page) (limit : Time.Span) : Decidable (p.Completes limit) := by
  unfold Completes
  infer_instance

/-- How many bytes of the body arrive before a limit. -/
def bytesBefore (p : Page) (limit : Time.Span) : Nat :=
  ((arrivedBefore limit.nanoseconds p.parts).map List.length).sum

/-- The status tells of an error. -/
def Rejected (p : Page) : Prop := 400 ≤ p.response.status ∧ p.response.status < 600

instance (p : Page) : Decidable p.Rejected := by
  unfold Rejected
  infer_instance

theorem chunks_body (p : Page) (limit : Time.Span) :
    (p.body limit).chunks = arrivedBefore limit.nanoseconds p.parts :=
  (arriving_spec limit p.waited 0 p.response.complete p.response.chunks).1

theorem whole_body_iff (p : Page) (limit : Time.Span) :
    (p.body limit).whole = true ↔ p.Completes limit :=
  (arriving_spec limit p.waited 0 p.response.complete p.response.chunks).2

/-- Of a body that is completed all bytes arrive. -/
theorem Completes.bytes {p : Page} {limit : Time.Span} (h : p.Completes limit) :
    p.bytesBefore limit = (p.response.chunks.map (·.bytes.length)).sum := by
  have hall : p.parts.filter (fun part => part.1 < limit.nanoseconds) = p.parts :=
    List.filter_eq_self.mpr (by simpa using h.2)
  rw [bytesBefore, arrivedBefore, hall, parts, map_snd_arrivals, List.map_map]
  rfl

theorem accepted_eq (p : Page) : p.accepted =
    if p.Rejected then .error (.rejected p.response.status p.response.phrase p.url) else .ok p := by
  have hiff : (StatusCode.isClientError p.response.status ||
      StatusCode.isServerError p.response.status) = true ↔ p.Rejected := by
    simp only [StatusCode.isClientError, StatusCode.isServerError, Rejected, Bool.or_eq_true,
      Bool.and_eq_true, decide_eq_true_eq]
    omega
  unfold accepted
  by_cases h : p.Rejected
  · rw [if_pos h, if_pos (hiff.mpr h)]
  · rw [if_neg h, if_neg (mt hiff.mp h)]

end Page

end EgressWatch.Net

namespace EgressWatch.Probe

open Net Time

/-! ## Downloads -/

/-- A download is completed: the fetch comes to a page whose status tells of no error and whose body
is completed before the limit. -/
def Completed (limit : Span) (outcome : Except FetchFault Page) : Prop :=
  ∃ page, outcome = .ok page ∧ ¬ page.Rejected ∧ page.Completes limit

theorem completed_ok_iff {limit : Span} {page : Page} :
    Completed limit (.ok page) ↔ ¬ page.Rejected ∧ page.Completes limit := by
  simp [Completed]

/-- How many bytes a download reads. -/
def bytesRead (limit : Span) : Except FetchFault Page → Nat
  | .error _ => 0
  | .ok page => if page.Rejected then 0 else page.bytesBefore limit

/-- The fault of a download that is not completed. -/
def faultOf? (limit : Span) : Except FetchFault Page → Option FetchFault
  | .error fault => some fault
  | .ok page =>
    if page.Rejected then
      some (.rejected page.response.status page.response.phrase page.url)
    else if page.Completes limit then none else some .brokenBody

/-- Either a download is completed or it has a fault. -/
theorem faultOf?_eq_none_iff (limit : Span) (outcome : Except FetchFault Page) :
    faultOf? limit outcome = none ↔ Completed limit outcome := by
  cases outcome with
  | error fault => simp [faultOf?, Completed]
  | ok page =>
    rw [completed_ok_iff]
    unfold faultOf?
    by_cases hrejected : page.Rejected
    · simp [hrejected]
    · by_cases hcompletes : page.Completes limit
      · simp [hrejected, hcompletes]
      · simp [hrejected, hcompletes]

/-- A completed download reads all of the body. -/
theorem Completed.bytesRead {limit : Span} {outcome : Except FetchFault Page}
    (h : Completed limit outcome) : ∃ page, outcome = .ok page ∧
      Probe.bytesRead limit outcome = (page.response.chunks.map (·.bytes.length)).sum := by
  obtain ⟨page, rfl, hrejected, hcompletes⟩ := h
  refine ⟨page, rfl, ?_⟩
  rw [Probe.bytesRead, if_neg hrejected, hcompletes.bytes]

theorem countBytes_eq (chunks : List (List UInt8)) :
    countBytes chunks = UInt64.ofNat (chunks.map List.length).sum := by
  have hfold : ∀ n : UInt64, chunks.foldl (fun n c => n + UInt64.ofNat c.length) n =
      n + UInt64.ofNat (chunks.map List.length).sum := by
    induction chunks with
    | nil => simp
    | cons c chunks ih =>
      intro n
      rw [List.foldl_cons, ih, List.map_cons, List.sum_cons, UInt64.ofNat_add, UInt64.add_assoc]
  exact (hfold 0).trans (UInt64.zero_add _)

/-- No latency is longer than what was waited for. -/
theorem toNat_latency_le (page : Page) : (latency page).toNat ≤ page.waited.milliseconds := by
  unfold latency saturated
  rw [UInt64.toNat_ofNat']
  exact Nat.le_trans (Nat.mod_le _ _) (Nat.min_le_left _ _)

/-- A download is what the outcome of its fetch makes it. -/
structure Download.Fits (limit : Span) (outcome : Except FetchFault Page) (d : Download) :
    Prop where
  arrived : d.arrived = UInt64.ofNat (bytesRead limit outcome)
  failed : ∀ fault, d.result = .error fault ↔ faultOf? limit outcome = some fault
  bytes : ∀ t, d.result = .ok t → t.bytes = UInt64.ofNat (bytesRead limit outcome)
  latency : ∀ t, d.result = .ok t → t.latency.toNat * 1000000 < limit.nanoseconds

theorem Download.fits_ofPage {limit : Span} {page : Page}
    (hwaited : page.waited.nanoseconds < limit.nanoseconds) :
    (Download.ofPage limit page).Fits limit (.ok page) := by
  unfold Download.ofPage
  rw [page.accepted_eq]
  by_cases hrejected : page.Rejected
  · rw [if_pos hrejected]
    refine ⟨?_, ?_, nofun, nofun⟩
    · simp [bytesRead, hrejected]
    · simp [faultOf?, hrejected]
  · have hread : countBytes (page.body limit).chunks =
        UInt64.ofNat (bytesRead limit (.ok page)) := by
      rw [countBytes_eq, page.chunks_body, bytesRead, if_neg hrejected]
      rfl
    rw [if_neg hrejected]
    dsimp only
    rw [hread]
    by_cases hcompletes : page.Completes limit
    · rw [if_pos ((page.whole_body_iff limit).mpr hcompletes)]
      have hlatency : (latency page).toNat * 1000000 < limit.nanoseconds := by
        have hms := toNat_latency_le page
        have hdiv : page.waited.milliseconds * 1000000 ≤ page.waited.nanoseconds :=
          Nat.div_mul_le_self _ _
        omega
      refine ⟨rfl, ?_, ?_, ?_⟩
      · simp [faultOf?, hrejected, hcompletes]
      · rintro t ⟨⟩
        rfl
      · rintro t ⟨⟩
        exact hlatency
    · rw [if_neg (mt (page.whole_body_iff limit).mp hcompletes)]
      refine ⟨rfl, ?_, nofun, nofun⟩
      simp [faultOf?, hrejected, hcompletes]

/-- A download is a fetch, and what it comes to is what the fetch has come to. -/
theorem fits_download (o : Order) (env : Environment) (trail : Trail) :
    (download o.route o.address o.token o.limit env trail).1.Fits o.limit
        (o.fetch env trail).1 ∧
      (download o.route o.address o.token o.limit env trail).2 = (o.fetch env trail).2 := by
  have hpage := o.fetch_eq_ok_iff env trail
  unfold Order.fetch at hpage ⊢
  unfold download
  rw [Action.run_bind]
  cases hfetch : (fetch o.route o.address o.token o.limit env trail).1 with
  | error fault =>
    refine ⟨⟨rfl, ?_, nofun, nofun⟩, rfl⟩
    simp [faultOf?]
  | ok page =>
    have hcomes : o.ComesTo env trail page := (hpage page).mp hfetch
    exact ⟨Download.fits_ofPage hcomes.inTime, rfl⟩

/-! ## Segments -/

/-- A segment is what its download makes it, given the counters before it. -/
structure SegmentRun.Fits (limit : Span) (outcome : Except FetchFault Page) (before : Counters)
    (run : SegmentRun) : Prop where
  counters : run.counters = before.addSpeedTest (UInt64.ofNat (bytesRead limit outcome))
  failed : ∀ fault, run.result = .error fault ↔ faultOf? limit outcome = some fault
  bytes : ∀ s, run.result = .ok s → s.bytes = UInt64.ofNat (bytesRead limit outcome)
  latency : ∀ s, run.result = .ok s → s.latency.toNat * 1000000 < limit.nanoseconds

theorem SegmentRun.fits_of_download {limit : Span} {outcome : Except FetchFault Page}
    {before : Counters} {d : Download} {run : SegmentRun} (h : d.Fits limit outcome)
    (hcounters : run.counters = before.addSpeedTest d.arrived)
    (hresult : (∃ fault, d.result = .error fault ∧ run.result = .error fault) ∨
      ∃ transfer sourceIp destIp, d.result = .ok transfer ∧
        run.result = .ok (transfer.segment sourceIp destIp)) :
    run.Fits limit outcome before := by
  rcases hresult with ⟨fault, hd, hrun⟩ | ⟨transfer, sourceIp, destIp, hd, hrun⟩
  · refine ⟨by rw [hcounters, h.arrived], fun fault' => ?_, ?_, ?_⟩
    · rw [← h.failed, hd, hrun]
      simp
    · intro s hs
      exact absurd (hrun.symm.trans hs) nofun
    · intro s hs
      exact absurd (hrun.symm.trans hs) nofun
  · refine ⟨by rw [hcounters, h.arrived], fun fault => ?_, ?_, ?_⟩
    · rw [← h.failed, hd, hrun]
      simp
    · intro s hs
      obtain rfl : transfer.segment sourceIp destIp = s := Except.ok.inj (hrun.symm.trans hs)
      exact h.bytes transfer hd
    · intro s hs
      obtain rfl : transfer.segment sourceIp destIp = s := Except.ok.inj (hrun.symm.trans hs)
      exact h.latency transfer hd

namespace SegmentRun.Fits

variable {limit : Span} {outcome : Except FetchFault Page} {before : Counters} {run : SegmentRun}

/-- There is a segment exactly if its download is completed. -/
theorem isSome_iff (h : run.Fits limit outcome before) :
    run.result.toOption.isSome ↔ Completed limit outcome := by
  rw [← faultOf?_eq_none_iff]
  cases hresult : run.result with
  | error fault =>
    have hfault := (h.failed fault).mp hresult
    simp [Except.toOption, hfault]
  | ok s =>
    have hnone : faultOf? limit outcome = none := by
      by_contra hne
      obtain ⟨fault, hfault⟩ := Option.ne_none_iff_exists'.mp hne
      have herror := (h.failed fault).mpr hfault
      exact absurd (hresult.symm.trans herror) (by simp)
    simp [Except.toOption, hnone]

/-- What is told of a segment that failed is the fault of its download. -/
theorem failure?_eq (h : run.Fits limit outcome before) (name : String) :
    Tester.failure? name run.result =
      (faultOf? limit outcome).map fun fault => name ++ ": " ++ fault.message := by
  cases hfault : faultOf? limit outcome with
  | none =>
    cases hresult : run.result with
    | error fault => exact absurd (((h.failed fault).mp hresult).symm.trans hfault) nofun
    | ok s => rfl
  | some fault =>
    rw [(h.failed fault).mpr hfault]
    rfl

end SegmentRun.Fits

namespace Tester

variable (t : Tester) (r : Resolver) (counters : Counters) (env : Environment) (trail : Trail)

/-- What is fetched for the first segment. -/
def egressOrder : Order := { route := t.tunnel, address := t.egressUrl, limit := egressLimit }

/-- What is fetched for the second segment. -/
def upstreamOrder (token : String) : Order where
  route := t.tunnel
  address := t.provider.speedUrl
  token := some token
  limit := upstreamLimit

theorem fits_runEgress : (t.runEgress r counters env trail).1.Fits egressLimit
    (t.egressOrder.fetch env trail).1 counters := by
  have hd := (fits_download t.egressOrder env trail).1
  refine SegmentRun.fits_of_download hd ?_ ?_
  · unfold runEgress
    rw [Action.run_bind]
    dsimp only [egressOrder]
    cases (download t.tunnel t.egressUrl none egressLimit env trail).1.result with
    | error fault => rfl
    | ok transfer => rfl
  · unfold runEgress
    rw [Action.run_bind]
    dsimp only [egressOrder]
    cases (download t.tunnel t.egressUrl none egressLimit env trail).1.result with
    | error fault => exact .inl ⟨fault, rfl, rfl⟩
    | ok transfer => exact .inr ⟨transfer, _, _, rfl, rfl⟩

theorem fits_runUpstream (token : String) : (t.runUpstream token r counters env trail).1.Fits
    upstreamLimit ((t.upstreamOrder token).fetch env trail).1 counters := by
  have hd := (fits_download (t.upstreamOrder token) env trail).1
  refine SegmentRun.fits_of_download hd ?_ ?_
  · unfold runUpstream
    rw [Action.run_bind]
    dsimp only [upstreamOrder]
    cases (download t.tunnel t.provider.speedUrl (some token) upstreamLimit env trail).1.result with
    | error fault => rfl
    | ok transfer => rfl
  · unfold runUpstream
    rw [Action.run_bind]
    dsimp only [upstreamOrder]
    cases (download t.tunnel t.provider.speedUrl (some token) upstreamLimit env trail).1.result with
    | error fault => exact .inl ⟨fault, rfl, rfl⟩
    | ok transfer => exact .inr ⟨transfer, _, _, rfl, rfl⟩

end Tester

end EgressWatch.Probe
