import EgressWatch.Proofs.Api.Handler
import Mathlib.Algebra.GroupWithZero.Nat

/-!
# Bytes that are counted and bytes that are sent

The counters of a service are those of a ledger of all requests and answers: the bodies of requests
that were not too long, and the bodies of answers as they were made. A `Dealing` is one request with
its answer, and an `Account` is a run of the service with its ledger beside it, so that what was
counted can be compared with what the clients have got (`Dealing.received`) and with what was made
for them and not sent (`Dealing.dropped`).

No handler touches the two counters, though a speed test counts what it downloads on the third
(`counters_serve`). So it is enough to see what one request adds (`enters_count`):

> `Enters d c c'`: `c'` is `c` with the body of the request, unless it is too long, and with the
> body of the answer that was made.

`Balanced` says that the counters are those of the ledger. A fresh service is balanced, one request
keeps it so (`Balanced.next`), and so does a run (`Balanced.run`); both counters are words, and the
sums of the ledger are compared with them up to multiples of 2 ^ 64.

What is made is sent, except that an answer to `HEAD` leaves without its body, after the bytes were
counted. So the counter of answers is ahead of what the clients have got by all bodies that were
dropped in this way (`Account.made_eq`), and `traffic_counted` says by how much and when it is not;
`head_counted_in_full` is such a run of one request.
-/

namespace EgressWatch.Api

open Net Time

/-! ## The ledger -/

/-- A request that was answered, and the answer as it was made. -/
structure Dealing where
  request : Request
  made : Answer

namespace Dealing

/-- The bytes that are taken from a request: none if its body is too long. -/
def taken (d : Dealing) : Nat := if maxBody < d.request.bodyLength then 0 else d.request.bodyLength

/-- What the client gets. -/
def received (d : Dealing) : Answer := Service.sent d.request d.made

/-- The bytes of a body that was made and is not sent. -/
def dropped (d : Dealing) : Nat := if d.request.method == "HEAD" then d.made.length else 0

theorem length_made (d : Dealing) : d.made.length = d.received.length + d.dropped := by
  unfold received dropped Service.sent
  split
  next => exact (Nat.zero_add _).symm
  next => rfl

end Dealing

/-- A run of the service with its ledger. -/
structure Account where
  service : Service
  trail : Trail := {}
  dealings : List Dealing := []

namespace Account

/-- One more request. -/
def next (env : Environment) (a : Account) (r : Request) : Account where
  service := (a.service.answer r env a.trail).1.2
  trail := (a.service.answer r env a.trail).2
  dealings := a.dealings ++ [⟨r, (a.service.count r env a.trail).1.1⟩]

theorem service_next (env : Environment) (a : Account) (r : Request) :
    (a.next env r).service = (a.service.count r env a.trail).1.2 := rfl

/-- All bytes taken from requests. -/
def taken (a : Account) : Nat := (a.dealings.map (·.taken)).sum

/-- All bytes of answers. -/
def made (a : Account) : Nat := (a.dealings.map (·.made.length)).sum

/-- All bytes that the clients have got. -/
def received (a : Account) : Nat := (a.dealings.map (·.received.length)).sum

/-- All bytes that were made and not sent. -/
def dropped (a : Account) : Nat := (a.dealings.map (·.dropped)).sum

theorem made_eq (a : Account) : a.made = a.received + a.dropped := by
  unfold made received dropped
  induction a.dealings with
  | nil => rfl
  | cons d dealings ih =>
    simp only [List.map_cons, List.sum_cons, d.length_made, ih]
    omega

end Account

/-! ## What one request adds -/

section Requests

variable (s : Service) (env : Environment) (trail : Trail)

/-- What a handler downloads is counted elsewhere. -/
theorem counters_serve (e : Endpoint) (r : Request) : ∃ arrived,
    (s.serve e r env trail).1.2.monitor.counters = s.monitor.counters.addSpeedTest arrived := by
  have hsame : s.monitor.counters = s.monitor.counters.addSpeedTest 0 := by
    simp [Counters.addSpeedTest]
  cases e with
  | current => exact ⟨0, hsame⟩
  | cached => exact ⟨0, hsame⟩
  | speedTest =>
    rw [Service.serve_speedTest]
    exact s.monitor.counters_probeSpeedTest s.token env trail
  | history =>
    refine ⟨0, Eq.trans ?_ hsame⟩
    unfold Service.serve
    dsimp only
    cases queryWindow (r.values rangeName) with
    | error fault => rfl
    | ok window => rfl
  | bandwidth => exact ⟨0, hsame⟩
  | ping => exact ⟨0, hsame⟩

/-- What a dealing makes of the counters: it adds the body of the request, unless that is too long,
and the body of the answer that is made. -/
structure Enters (d : Dealing) (c c' : Counters) : Prop where
  inbound : c'.inbound = c.inbound + UInt64.ofNat d.taken
  outbound : c'.outbound = c.outbound + UInt64.ofNat d.made.length
  startedAt : c'.startedAt = c.startedAt

theorem enters_count (r : Request) : Enters ⟨r, (s.count r env trail).1.1⟩ s.monitor.counters
    (s.count r env trail).1.2.monitor.counters := by
  by_cases hlong : maxBody < r.bodyLength
  · rw [s.count_long trail hlong]
    have htaken : ∀ a, Dealing.taken ⟨r, a⟩ = 0 := fun a => if_pos hlong
    have hmade : ∀ allow, Answer.length { Answer.tooLong with allow := allow } = 0 := fun _ => rfl
    exact ⟨by simp [htaken], by simp [hmade], rfl⟩
  · have htaken : ∀ a, Dealing.taken ⟨r, a⟩ = r.bodyLength := fun a => if_neg hlong
    obtain ⟨arrived, harrived⟩ : ∃ arrived,
        ((s.taking r).dispatch r env trail).1.2.monitor.counters =
          (s.taking r).monitor.counters.addSpeedTest arrived := by
      cases hr : r.handler? with
      | none =>
        obtain ⟨a, ha⟩ := (s.taking r).dispatch_unhandled trail env hlong hr
        rw [ha]
        exact ⟨0, by simp [Counters.addSpeedTest]⟩
      | some e =>
        rw [((s.taking r).dispatch_handled hr).1]
        exact counters_serve (s.taking r) env trail e r
    rw [s.count_short trail hlong]
    revert harrived
    generalize (s.taking r).dispatch r env trail = dispatched
    intro harrived
    have hinbound := congrArg Counters.inbound harrived
    have houtbound := congrArg Counters.outbound harrived
    have hstarted := congrArg Counters.startedAt harrived
    refine ⟨?_, ?_, hstarted⟩
    · rw [htaken]
      exact hinbound
    · exact congrArg (· + UInt64.ofNat dispatched.1.1.length) houtbound

end Requests

/-! ## Runs -/

/-- The counters are those of the ledger. -/
structure Balanced (since : Instant) (a : Account) : Prop where
  inbound : a.service.monitor.counters.inbound = UInt64.ofNat a.taken
  outbound : a.service.monitor.counters.outbound = UInt64.ofNat a.made
  startedAt : a.service.monitor.counters.startedAt = since

section Runs

variable {env : Environment} {since : Instant} {a : Account}

theorem Balanced.next (h : Balanced since a) (r : Request) : Balanced since (a.next env r) := by
  have henters := enters_count a.service env a.trail r
  refine ⟨henters.inbound.trans ?_, henters.outbound.trans ?_, henters.startedAt.trans h.startedAt⟩
  · rw [h.inbound, ← UInt64.ofNat_add]
    simp [Account.taken, Account.next]
  · rw [h.outbound, ← UInt64.ofNat_add]
    simp [Account.made, Account.next]

theorem Balanced.run (h : Balanced since a) (rs : List Request) :
    Balanced since (rs.foldl (Account.next env) a) := by
  -- on the requests that are still to come, at every point of a run
  induction rs generalizing a with
  | nil => exact h
  | cons r rs ih => exact ih (h.next r)

theorem requests_run (rs : List Request) (a : Account) :
    (rs.foldl (Account.next env) a).dealings.map (·.request) =
      a.dealings.map (·.request) ++ rs := by
  induction rs generalizing a with
  | nil => simp
  | cons r rs ih => simp [ih, Account.next]

/-- What the counters show to a request for them: all before it, and its own body. -/
theorem Balanced.bandwidth (h : Balanced since a) {r : Request}
    (hr : r.handler? = some .bandwidth) : ∃ downloaded,
      (a.service.answer r env a.trail).1.1 = Service.sent r (.json (Bandwidth.toJson
        ⟨UInt64.ofNat (a.taken + r.bodyLength), UInt64.ofNat a.made, downloaded, since⟩)) := by
  refine ⟨a.service.monitor.counters.speedTest, ?_⟩
  rw [a.service.answer_handled a.trail hr, UInt64.ofNat_add, ← h.inbound, ← h.outbound,
    ← h.startedAt]
  rfl

end Runs

/-- Only answers to `HEAD` are dropped. -/
theorem dropped_eq_zero {a : Account} (h : ∀ d ∈ a.dealings, d.request.method ≠ "HEAD") :
    a.dropped = 0 := by
  refine List.sum_eq_zero_iff_forall_eq_nat.mpr fun n hn => ?_
  obtain ⟨d, hd, rfl⟩ := List.mem_map.mp hn
  have hhead : (d.request.method == "HEAD") = false := by simpa using h d hd
  rw [Dealing.dropped, hhead]
  rfl

/-- After any run from a fresh start the counter of requests is the sum of all bodies that were not
too long, and the counter of answers is the sum of all that was sent and all that was made for
`HEAD` and dropped, both up to multiples of 2 ^ 64. So the latter is the sum of what was sent only
if what was dropped is such a multiple; without `HEAD` it is nothing. Whoever asks for the counters
is shown those before the request, with its own body. A request whose body is too long is refused
without a body, and nothing else happens. -/
theorem traffic_counted {s : Service} {since : Instant} (hfresh : s.monitor.counters = .start since)
    (env : Environment) (trail : Trail) (rs : List Request) :
    let a := rs.foldl (Account.next env) ⟨s, trail, []⟩
    let counters := a.service.monitor.counters
    a.dealings.map (·.request) = rs ∧
    counters.inbound.toNat = a.taken % 2 ^ 64 ∧
    counters.outbound.toNat = (a.received + a.dropped) % 2 ^ 64 ∧
    (counters.outbound.toNat = a.received % 2 ^ 64 ↔ 2 ^ 64 ∣ a.dropped) ∧
    ((∀ r ∈ rs, r.method ≠ "HEAD") → a.dropped = 0) ∧
    (∀ r, ∃ d : Dealing, (a.next env r).dealings = a.dealings ++ [d] ∧ d.request = r ∧
      d.received = (a.service.answer r env a.trail).1.1) ∧
    (∀ r : Request, r.handler? = some .bandwidth → ∃ downloaded,
      (a.service.answer r env a.trail).1.1 = Service.sent r (.json (Bandwidth.toJson
        ⟨UInt64.ofNat (a.taken + r.bodyLength), UInt64.ofNat (a.received + a.dropped), downloaded,
          since⟩))) ∧
    ∀ r : Request, maxBody < r.bodyLength → a.next env r =
      { a with dealings := a.dealings ++
        [⟨r, { status := 413, allow := Service.allowFor r, body := "" }⟩] } := by
  intro a counters
  have hstart : Balanced since ⟨s, trail, []⟩ :=
    ⟨congrArg Counters.inbound hfresh, congrArg Counters.outbound hfresh,
      congrArg Counters.startedAt hfresh⟩
  have h : Balanced since a := hstart.run rs
  have hrequests : a.dealings.map (·.request) = rs := requests_run rs ⟨s, trail, []⟩
  have hin : counters.inbound.toNat = a.taken % 2 ^ 64 := by
    rw [h.inbound, UInt64.toNat_ofNat']
  have hout : counters.outbound.toNat = (a.received + a.dropped) % 2 ^ 64 := by
    rw [h.outbound, UInt64.toNat_ofNat', a.made_eq]
  refine ⟨hrequests, hin, hout, ?_, fun hhead => ?_, fun r => ⟨_, rfl, rfl, rfl⟩, fun r hr => ?_,
    fun r hlong => ?_⟩
  · rw [hout]
    omega
  · refine dropped_eq_zero fun d hd => hhead d.request ?_
    rw [← hrequests]
    exact List.mem_map_of_mem hd
  · rw [← a.made_eq]
    exact h.bandwidth hr
  · unfold Account.next Service.answer
    rw [Action.run_bind, a.service.count_long a.trail hlong]
    rfl

/-- The service of the default configuration at the epoch. -/
def started : Service :=
  ⟨.withSources {} .direct (.echo "" .direct) (.register "") .epoch, .empty, {}⟩

/-- A body that is just not too long, one that just is, and the counters. -/
theorem traffic_counted_at_limit :
    let env : Environment := { network := .unreachable, clock := fun _ => .epoch }
    let unknown : Request := { method := "POST", target := "/", bodyLength := maxBody }
    let refused : Request := { unknown with bodyLength := maxBody + 1 }
    let bandwidth : Request :=
      { method := "GET", target := Endpoint.bandwidth.path, bodyLength := 5 }
    let a := [unknown, refused].foldl (Account.next env) ⟨started, {}, []⟩
    started.monitor.counters = .start .epoch ∧ bandwidth.handler? = some .bandwidth ∧
      ∃ downloaded, (a.service.answer bandwidth env a.trail).1.1 = .json (Bandwidth.toJson
        ⟨UInt64.ofNat (maxBody + 5), UInt64.ofNat 9, downloaded, .epoch⟩) := by
  intro env unknown refused bandwidth
  have hhandler : bandwidth.handler? = some .bandwidth := by decide +kernel
  have hsent : ∀ answer, Service.sent bandwidth answer = answer := fun _ => if_neg (by decide)
  have hbytes : ([unknown, refused].foldl (Account.next env) ⟨started, {}, []⟩).taken = maxBody ∧
      ([unknown, refused].foldl (Account.next env) ⟨started, {}, []⟩).received +
        ([unknown, refused].foldl (Account.next env) ⟨started, {}, []⟩).dropped = 9 := by
    decide +kernel
  have hfresh : started.monitor.counters = .start .epoch := rfl
  have h := traffic_counted hfresh env {} [unknown, refused]
  generalize [unknown, refused].foldl (Account.next env) ⟨started, {}, []⟩ = a at hbytes h
  obtain ⟨-, -, -, -, -, -, hshown, -⟩ := h
  obtain ⟨downloaded, hanswer⟩ := hshown bandwidth hhandler
  rw [hbytes.1, hbytes.2, hsent] at hanswer
  exact ⟨rfl, hhandler, downloaded, hanswer⟩

/-- What is shown when nothing was found. -/
theorem length_cachedAnswer {s : Service} (hstatus : s.monitor.lastStatus = none)
    (htest : s.monitor.lastSpeedTest = none) : s.cachedAnswer.length = 33 := by
  have hsorted : (Json.object [("status", .null), ("speed_test", .null)]).sorted =
      .object [("speed_test", .null), ("status", .null)] := by
    have hle : ¬ "status" ≤ "speed_test" := by decide +kernel
    simp [Json.sorted, Json.sortedMembers, List.mergeSort, hle]
  unfold Service.cachedAnswer
  rw [hstatus, htest, Json.optional, Json.optional, hsorted]
  decide +kernel

/-- Somebody asks with `HEAD` for what was found last, gets no body, and 33 bytes are counted. -/
theorem head_counted_in_full :
    let env : Environment := { network := .unreachable, clock := fun _ => .epoch }
    let head : Request := { method := "HEAD", target := Endpoint.cached.path }
    let a := [head].foldl (Account.next env) ⟨started, {}, []⟩
    started.monitor.counters = .start .epoch ∧
      a.received = 0 ∧ a.service.monitor.counters.outbound.toNat = 33 := by
  intro env head
  have hhandler : head.handler? = some .cached := by decide +kernel
  have hmade : (started.count head env {}).1.1.length = 33 := by
    rw [started.count_handled {} hhandler]
    exact length_cachedAnswer (s := started.taking head) rfl rfl
  have houtbound := (enters_count started env {} head).outbound
  dsimp only at houtbound
  rw [hmade] at houtbound
  have hreceived : (Account.next env ⟨started, {}, []⟩ head).received = 0 := by decide +kernel
  refine ⟨rfl, hreceived, ?_⟩
  rw [List.foldl_cons, List.foldl_nil, Account.service_next, houtbound]
  decide +kernel

end EgressWatch.Api
