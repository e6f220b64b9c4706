import EgressWatch.Proofs.Api.Handler
import EgressWatch.Proofs.Monitor.Direct
import EgressWatch.Proofs.Store.Chronicle

/-!
# Cache, table and answers in step

A run of the service answers one request after another (`Course`). What its probes have found is
seen in four places: in the bodies that their handlers make, in the rows of the table, in what the
monitor remembers, and in the history that is shown. All four are compared with one list, the
snapshots that were found so far in the order in which they were found:

> `InStep env c`: the table lists what was found, the bodies of each handler are the texts of its
> kind, and the monitor remembers the last of each kind.

It holds at the start (`Fresh.inStep`) and every request keeps it, whatever the request and wherever
it goes (`InStep.next`), for a request does no more than the module on handlers says. So it holds
after every run (`InStep.run`). What the service shows follows from it: the last snapshots
(`InStep.cached`) and the history of a window (`InStep.history`).

Two assumptions are needed for parts of it only. The table takes in what is found as long as there
are numbers for its rows, so nothing is claimed of it beyond the largest number. And what is shown
of history depends on the clock: as long as that is `Steady`, snapshots that were found later bear
no earlier instants (`Taken.inOrder`), and the newest are the last ones, also where they bear one
instant. `run_in_step` says all this of any run, with each assumption on the part that needs it.
-/

namespace EgressWatch.Api

open Net Store Time

/-! ## Runs -/

/-- A run of the service up to some point. -/
structure Course where
  service : Service
  trail : Trail := {}
  /-- What was found for the requests so far. -/
  found : List Snapshot := []
  /-- The bodies that the handlers have made so far. -/
  bodies : List (Endpoint × String) := []

namespace Course

/-- One more request. -/
def next (env : Environment) (c : Course) (r : Request) : Course where
  service := (c.service.answer r env c.trail).1.2
  trail := (c.service.answer r env c.trail).2
  found := c.found ++ (c.service.find r env c.trail).1.toList
  bodies := c.bodies ++
    r.handler?.toList.map fun e => (e, (c.service.count r env c.trail).1.1.body)

/-- The bodies that one handler has made. -/
def bodiesOf (c : Course) (e : Endpoint) : List String :=
  (c.bodies.filter (·.1 == e)).map (·.2)

end Course

/-- The clock shows what clocks show, and does not go back. Each of its readings is a count of
nanoseconds since the epoch: a clock that has fallen behind the epoch ends the program instead, a
count has no leap seconds, and no clock is set beyond the year 9999. -/
structure Steady (clock : Nat → Instant) : Prop where
  reading : ∀ n, (clock n).Reading
  onward : ∀ m n, m ≤ n → ¬ clock n < clock m

/-- Each snapshot bears a reading of the clock, a later one a later reading, and all of these are
among the first so many. -/
def Taken (clock : Nat → Instant) (readings : Nat) (found : List Snapshot) : Prop :=
  ∃ ns : List Nat, found.map (·.takenAt) = ns.map clock ∧ ns.Pairwise (· < ·) ∧
    ∀ n ∈ ns, n < readings

namespace Taken

variable {clock : Nat → Instant} {readings : Nat} {found : List Snapshot}

theorem later (h : Taken clock readings found) {later : Nat} (hle : readings ≤ later) :
    Taken clock later found := by
  obtain ⟨ns, hns, hrising, hpast⟩ := h
  exact ⟨ns, hns, hrising, fun n hn => Nat.lt_of_lt_of_le (hpast n hn) hle⟩

theorem add (h : Taken clock readings found) {s : Snapshot} (hs : s.takenAt = clock readings) :
    Taken clock (readings + 1) (found ++ [s]) := by
  obtain ⟨ns, hns, hrising, hpast⟩ := h
  refine ⟨ns ++ [readings], by simp [hns, hs], ?_, fun n hn => ?_⟩
  · refine List.pairwise_append.mpr ⟨hrising, List.pairwise_singleton _ _, fun m hm n hn => ?_⟩
    rw [List.mem_singleton.mp hn]
    exact hpast m hm
  · rcases List.mem_append.mp hn with hn | hn
    · exact Nat.lt_succ_of_lt (hpast n hn)
    · rw [List.mem_singleton.mp hn]
      exact Nat.lt_succ_self readings

/-- On a steady clock time does not go back along what was found. -/
theorem inOrder (h : Taken clock readings found) (hclock : Steady clock) : InOrder found := by
  obtain ⟨ns, hns, hrising, -⟩ := h
  constructor
  · intro s hs
    have hmem : s.takenAt ∈ ns.map clock := hns ▸ List.mem_map_of_mem hs
    obtain ⟨n, -, hn⟩ := List.mem_map.mp hmem
    rw [← hn]
    exact (hclock.reading n).sinceEpoch.plainYear
  · have honward : (ns.map clock).Pairwise fun a b => ¬ b < a :=
      List.pairwise_map.mpr (hrising.imp fun hlt => hclock.onward _ _ (Nat.le_of_lt hlt))
    rw [← hns, List.pairwise_map] at honward
    exact honward

end Taken

/-! ## Steps -/

/-- All that shows what was found agrees: the table, as long as there are numbers for its rows, the
bodies and what the monitor remembers. -/
structure InStep (env : Environment) (c : Course) : Prop where
  table : (c.found.length : Int) ≤ maxId → ∃ t, c.service.database = ⟨some t⟩ ∧ Lists t c.found ∧
    ∀ r ∈ t.rows, r.id ≤ c.found.length
  bodies : ∀ kind, c.bodiesOf (endpointOf kind) =
    (c.found.filter (·.kind == kind)).map Snapshot.encode
  lastStatus : c.service.monitor.lastStatus = (c.found.filterMap Snapshot.status?).getLast?
  lastSpeedTest :
    c.service.monitor.lastSpeedTest = (c.found.filterMap Snapshot.speedTest?).getLast?
  taken : Taken env.clock c.trail.readings c.found

/-- A handler that finds something makes its text the body. -/
theorem next_bodies (env : Environment) (c : Course) (r : Request) (kind : Snapshot.Kind) :
    (c.next env r).bodiesOf (endpointOf kind) = c.bodiesOf (endpointOf kind) ++
      ((c.service.find r env c.trail).1.toList.filter (·.kind == kind)).map Snapshot.encode := by
  unfold Course.next Course.bodiesOf Service.find
  rw [List.filter_append, List.map_append]
  refine congrArg (_ ++ ·) ?_
  cases h : r.handler? with
  | none => rfl
  | some e =>
    rw [c.service.count_handled c.trail h]
    cases hfound : ((c.service.taking r).probe e env c.trail).1 with
    | none =>
      have hne := Service.ne_endpointOf_of_probe _ _ hfound kind
      simp [hne]
    | some s =>
      have hbody := Service.body_serve _ _ e r hfound
      have hendpoint := Service.endpointOf_probe _ _ hfound
      have hkind : (e == endpointOf kind) = (s.kind == kind) := by
        rw [← hendpoint]
        cases s.kind <;> cases kind <;> rfl
      cases hs : s.kind == kind with
      | true => simp [hbody, hkind, hs]
      | false => simp [hkind, hs]

theorem getLast?_found {α : Type} (view : Snapshot → Option α) (log : List Snapshot)
    (found : Option Snapshot) : ((log ++ found.toList).filterMap view).getLast? =
      (found.bind view).or (log.filterMap view).getLast? := by
  rw [List.filterMap_append, List.getLast?_append]
  cases found with
  | none => rfl
  | some s => cases h : view s <;> simp [h]

section Steps

variable {env : Environment} {c : Course}

theorem InStep.next (h : InStep env c) (r : Request) : InStep env (c.next env r) := by
  have heffect : Service.Effect env c.service c.trail (c.service.find r env c.trail).1
    (c.next env r).service (c.next env r).trail := c.service.effect_count c.trail r
  have hfound : (c.next env r).found =
    c.found ++ (c.service.find r env c.trail).1.toList := rfl
  have hbodies := next_bodies env c r
  revert heffect hfound hbodies
  generalize (c.service.find r env c.trail).1 = found
  generalize c.next env r = c'
  intro heffect hfound hbodies
  refine ⟨fun hcount => ?_, fun kind => ?_, ?_, ?_, ?_⟩
  · obtain ⟨draws, hdatabase⟩ := heffect.database
    rw [hfound] at hcount ⊢
    rw [hdatabase]
    cases found with
    | none =>
      rw [Option.toList_none, List.append_nil] at hcount ⊢
      exact h.table hcount
    | some s =>
      rw [Option.toList_some, List.length_append, List.length_singleton] at hcount ⊢
      obtain ⟨t, ht, hlists, hids⟩ := h.table (by omega)
      rw [ht]
      exact hlists.keep (Int.natCast_nonneg _) hids (by omega) draws s
  · rw [hbodies, h.bodies, hfound, List.filter_append, List.map_append]
  · rw [heffect.lastStatus, h.lastStatus, hfound, getLast?_found]
  · rw [heffect.lastSpeedTest, h.lastSpeedTest, hfound, getLast?_found]
  · rw [hfound]
    cases found with
    | none =>
      rw [Option.toList_none, List.append_nil]
      exact h.taken.later heffect.readings
    | some s => exact (h.taken.add (heffect.takenAt s rfl)).later heffect.readings

/-- After a run from a point at which all agrees, all agrees. -/
theorem InStep.run (h : InStep env c) (rs : List Request) :
    InStep env (rs.foldl (Course.next env) c) := by
  -- on the requests that are still to come, at every point of a run
  induction rs generalizing c with
  | nil => exact h
  | cons r rs ih => exact ih (h.next r)

end Steps

/-! ## Answers -/

/-- What was found last, as JSON, keys in order. -/
def cachedJson (status : Option Status) (test : Option SpeedTest) : Json :=
  (Json.object [("status", .optional Status.toJson status),
    ("speed_test", .optional SpeedTest.toJson test)]).sorted

section Answers

variable {env : Environment} {c : Course} {r : Request}

theorem InStep.cached (h : InStep env c) (hr : r.handler? = some .cached) :
    (c.service.answer r env c.trail).1.1 = Service.sent r (.json
      (cachedJson (c.found.filterMap Snapshot.status?).getLast?
        (c.found.filterMap Snapshot.speedTest?).getLast?)) := by
  rw [c.service.answer_handled c.trail hr, ← h.lastStatus, ← h.lastSpeedTest]
  rfl

theorem InStep.history (h : InStep env c) (hclock : Steady env.clock)
    (hcount : (c.found.length : Int) ≤ maxId) {window : Span}
    (hr : r.handler? = some .history) (hwindow : queryWindow (r.values rangeName) = .ok window) :
    (c.service.answer r env c.trail).1.1 = Service.sent r (.json (historyJson
      (((since .status ((env.clock c.trail.readings).ago window) c.found).reverse.take
        100).filterMap Snapshot.status?)
      (((since .speedTest ((env.clock (c.trail.readings + 1)).ago window) c.found).reverse.take
        50).filterMap (readBack Snapshot.speedTest?)))) := by
  obtain ⟨t, ht, hlists, -⟩ := h.table hcount
  have horder := h.taken.inOrder hclock
  have hyear := fun n => (hclock.reading n).year_ago_le window
  rw [c.service.answer_history c.trail hr hwindow ht, ← hlists.statusesSince horder (hyear _),
    ← hlists.speedTestsSince horder (hyear _)]
  rfl

end Answers

/-- A service that has found nothing so far, with an empty table. -/
structure Fresh (s : Service) : Prop where
  database : s.database = .empty
  lastStatus : s.monitor.lastStatus = none
  lastSpeedTest : s.monitor.lastSpeedTest = none

theorem Fresh.inStep {s : Service} (h : Fresh s) (env : Environment) (trail : Trail) :
    InStep env ⟨s, trail, [], []⟩ where
  table := fun _ => ⟨{}, h.database, lists_empty, by simp⟩
  bodies := fun _ => rfl
  lastStatus := h.lastStatus
  lastSpeedTest := h.lastSpeedTest
  taken := ⟨[], rfl, .nil, by simp⟩

/-- After any run of a fresh service the rows of each kind hold the bodies that its handler has
made, in order, and these are the texts of what was found; the monitor remembers what was found
last, and shows it; history shows the last of what was found in its window, the very last first; and
a request that comes to no handler that finds something leaves table and memory as they are. For the
rows there have to be numbers: no more may have been found than the largest one. -/
theorem run_in_step {s : Service} (hs : Fresh s) (env : Environment) (trail : Trail)
    (rs : List Request) :
    let c := rs.foldl (Course.next env) ⟨s, trail, [], []⟩
    let lastStatus := (c.found.filterMap Snapshot.status?).getLast?
    let lastSpeedTest := (c.found.filterMap Snapshot.speedTest?).getLast?
    ((c.found.length : Int) ≤ maxId → ∃ t, c.service.database = ⟨some t⟩ ∧ Numbered t.rows ∧
      ∀ kind, (t.rows.filter (·.kind == .text kind.tag)).map (·.payload) =
        (c.bodiesOf (endpointOf kind)).map .text) ∧
    (∀ kind, c.bodiesOf (endpointOf kind) =
      (c.found.filter (·.kind == kind)).map Snapshot.encode) ∧
    c.service.monitor.lastStatus = lastStatus ∧
    c.service.monitor.lastSpeedTest = lastSpeedTest ∧
    (∀ r, r.handler? = some .cached → (c.service.answer r env c.trail).1.1 =
      Service.sent r (.json (cachedJson lastStatus lastSpeedTest))) ∧
    (Steady env.clock → (c.found.length : Int) ≤ maxId → ∀ r window, r.handler? = some .history →
      queryWindow (r.values rangeName) = .ok window →
      let first := (env.clock c.trail.readings).ago window
      let second := (env.clock (c.trail.readings + 1)).ago window
      (c.service.answer r env c.trail).1.1 = Service.sent r (.json (historyJson
        (((since .status first c.found).reverse.take 100).filterMap Snapshot.status?)
        (((since .speedTest second c.found).reverse.take 50).filterMap
          (readBack Snapshot.speedTest?))))) ∧
    ∀ r, r.handler? ≠ some .current → r.handler? ≠ some .speedTest →
      (c.next env r).service.database = c.service.database ∧
      (c.next env r).service.monitor.lastStatus = c.service.monitor.lastStatus ∧
      (c.next env r).service.monitor.lastSpeedTest = c.service.monitor.lastSpeedTest := by
  intro c lastStatus lastSpeedTest
  have h : InStep env c := (hs.inStep env trail).run rs
  refine ⟨fun hcount => ?_, h.bodies, h.lastStatus, h.lastSpeedTest, fun r hr => h.cached hr,
    fun hclock hcount r window hr hwindow => h.history hclock hcount hr hwindow,
    fun r hcurrent htest => c.service.count_unchanged c.trail hcurrent htest⟩
  obtain ⟨t, ht, hlists, -⟩ := h.table hcount
  exact ⟨t, ht, hlists.numbered, fun kind => by rw [h.bodies, hlists.payloads]⟩

/-- Two statuses of one instant around a speed test that is refused: history shows the second status
first. -/
theorem run_in_step_one_instant :
    let env := Monitor.failingFirst 1 "203.0.113.7"
    let current : Request := { method := "GET", target := Endpoint.current.path }
    let refused : Request :=
      { method := "POST", target := Endpoint.speedTest.path, bodyLength := maxBody + 1 }
    let history : Request := { method := "GET", target := Endpoint.history.path ++ "?range=1h" }
    let c := [current, refused, current].foldl (Course.next env)
      ⟨⟨Monitor.unproxied, .empty, {}⟩, {}, [], []⟩
    Fresh ⟨Monitor.unproxied, .empty, {}⟩ ∧ Steady env.clock ∧
      (c.found.filterMap Snapshot.status?).map (·.machineIp) = ["", "203.0.113.7"] ∧
      (c.service.answer history env c.trail).1.1 =
        .json (historyJson (c.found.filterMap Snapshot.status?).reverse []) := by
  intro env current refused history
  have hfresh : Fresh ⟨Monitor.unproxied, .empty, {}⟩ := ⟨rfl, rfl, rfl⟩
  have hreading : Instant.epoch.Reading := ⟨by decide, by decide⟩
  have hirrefl : ¬ Instant.epoch < Instant.epoch := by decide
  have hclock : Steady env.clock := ⟨fun _ => hreading, fun _ _ _ => hirrefl⟩
  have hhandler : history.handler? = some .history := by decide +kernel
  have hwindow : queryWindow (history.values rangeName) = .ok (.ofHours 1) :=
    eq_ok_of_toOption (by decide +kernel)
  obtain ⟨c, hc⟩ : ∃ c, c = [current, refused, current].foldl (Course.next env)
    ⟨⟨Monitor.unproxied, .empty, {}⟩, {}, [], []⟩ := ⟨_, rfl⟩
  have hrun := run_in_step hfresh env {} [current, refused, current]
  rw [← hc] at hrun ⊢
  have hfound : (c.found.filterMap Snapshot.status?).map (·.machineIp) = ["", "203.0.113.7"] ∧
      (c.found.length : Int) ≤ maxId ∧
      ((since .status (Instant.epoch.ago (.ofHours 1)) c.found).reverse.take 100).filterMap
        Snapshot.status? = (c.found.filterMap Snapshot.status?).reverse ∧
      (since .speedTest (Instant.epoch.ago (.ofHours 1)) c.found).length = 0 := by
    rw [hc]
    decide +kernel
  obtain ⟨hips, hcount, hstatuses, hnone⟩ := hfound
  have htests := List.eq_nil_of_length_eq_zero hnone
  have hshown : (c.service.answer history env c.trail).1.1 = Service.sent history (.json
      (historyJson
        (((since .status (Instant.epoch.ago (.ofHours 1)) c.found).reverse.take 100).filterMap
          Snapshot.status?)
        (((since .speedTest (Instant.epoch.ago (.ofHours 1)) c.found).reverse.take 50).filterMap
          (readBack Snapshot.speedTest?)))) :=
    hrun.2.2.2.2.2.1 hclock hcount history _ hhandler hwindow
  rw [hstatuses, htests] at hshown
  exact ⟨hfresh, hclock, hips, hshown⟩

end EgressWatch.Api
