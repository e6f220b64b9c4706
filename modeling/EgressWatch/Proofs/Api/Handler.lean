import EgressWatch.Api.Service
import EgressWatch.Proofs.Monitor.Probe

/-!
# What one request does

Every request goes to the handler of one endpoint, or to none: if its body is too long, its path
unknown or its method wrong (`Request.handler?`). Two of the handlers find a snapshot
(`Service.find`), which goes to the database, to its place in the monitor and into the body of the
answer; whatever else a request does, it leaves these as they are. This is said in one relation
between the service before and after:

> `Effect env s trail found s' trail'`: what was found bears the reading of the clock that the step
> makes, and database and monitor have taken it in.

The service wraps its handlers twice. A handler is looked at by itself first (`effect_serve`, with
an equation for each endpoint that needs one); counting the two bodies around it changes nothing
that `Effect` speaks of (`count_short`), and requests without a handler change nothing else
(`effect_count_unhandled`). `effect_count` is both together, and what runs of the service are built
on.

Which text a handler makes is a matter of its own, as the answer may leave without it: a handler
that finds something makes its text the body (`body_serve`), and history is what the table holds at
two readings of the clock (`answer_history`).
-/

namespace EgressWatch.Api

open Net Time

/-- The endpoint whose handler a request comes to. -/
def Request.handler? (r : Request) : Option Endpoint :=
  if maxBody < r.bodyLength then none else (Endpoint.ofPath? r.path).filter (·.accepts r.method)

/-- The endpoint whose handler finds snapshots of a kind. -/
def endpointOf : Snapshot.Kind → Endpoint
  | .status => .current
  | .speedTest => .speedTest

namespace Service

/-- The service when the body of a request has been counted. -/
def taking (s : Service) (r : Request) : Service :=
  { s with monitor := s.monitor.addInbound (UInt64.ofNat r.bodyLength) }

/-- The service when the body of an answer has been counted. -/
def giving (s : Service) (a : Answer) : Service :=
  { s with monitor := s.monitor.addOutbound (UInt64.ofNat a.length) }

/-- What the handler of an endpoint finds. -/
def probe (s : Service) : Endpoint → Action (Option Snapshot)
  | .current => do
    let (status, _) ← s.monitor.probeStatus
    return some (.status status)
  | .speedTest => do
    let (test, _) ← s.monitor.probeSpeedTest s.token
    return some (.speedTest test)
  | _ => return none

/-- What is found for a request. -/
def find (s : Service) (r : Request) : Action (Option Snapshot) :=
  match r.handler? with
  | none => return none
  | some e => (s.taking r).probe e

/-- A change of the service in a step of a run, during which this was found: a snapshot bears the
reading of the clock that the step makes, and goes to the database and to its place in the
monitor. -/
structure Effect (env : Environment) (s : Service) (trail : Trail) (found : Option Snapshot)
    (s' : Service) (trail' : Trail) : Prop where
  database : ∃ draws, s'.database = found.elim s.database (s.database.keep draws)
  lastStatus : s'.monitor.lastStatus = (found.bind Snapshot.status?).or s.monitor.lastStatus
  lastSpeedTest :
    s'.monitor.lastSpeedTest = (found.bind Snapshot.speedTest?).or s.monitor.lastSpeedTest
  takenAt : ∀ c, found = some c → c.takenAt = env.clock trail.readings
  readings : trail.readings + found.toList.length ≤ trail'.readings

section Handlers

variable {env : Environment} {s s' : Service} {trail trail' : Trail}

/-- Nothing is found, and nothing changes but what is not looked at. -/
theorem Effect.none (hdatabase : s'.database = s.database)
    (hstatus : s'.monitor.lastStatus = s.monitor.lastStatus)
    (htest : s'.monitor.lastSpeedTest = s.monitor.lastSpeedTest)
    (htime : trail.readings ≤ trail'.readings) : Effect env s trail none s' trail' :=
  ⟨⟨fun _ => 0, hdatabase⟩, hstatus, htest, by rintro c ⟨⟩, htime⟩

variable (s) (trail)

theorem probe_current : (s.probe .current env trail).1 =
    some (.status (s.monitor.probeStatus env trail).1.1) := rfl

theorem probe_speedTest : (s.probe .speedTest env trail).1 =
    some (.speedTest (s.monitor.probeSpeedTest s.token env trail).1.1) := rfl

theorem serve_current (r : Request) : s.serve .current r env trail =
    ((.json (s.monitor.probeStatus env trail).1.1.toJson,
      { s with monitor := (s.monitor.probeStatus env trail).1.2 }.keep
        (env.draws (s.monitor.probeStatus env trail).2)
        (.status (s.monitor.probeStatus env trail).1.1)),
      (s.monitor.probeStatus env trail).2) := rfl

theorem serve_speedTest (r : Request) : s.serve .speedTest r env trail =
    ((.json (s.monitor.probeSpeedTest s.token env trail).1.1.toJson,
      { s with monitor := (s.monitor.probeSpeedTest s.token env trail).1.2 }.keep
        (env.draws (s.monitor.probeSpeedTest s.token env trail).2)
        (.speedTest (s.monitor.probeSpeedTest s.token env trail).1.1)),
      (s.monitor.probeSpeedTest s.token env trail).2) := rfl

theorem serve_history {r : Request} {window : Span}
    (h : queryWindow (r.values rangeName) = .ok window) : s.serve .history r env trail =
      ((s.historyAnswer (env.clock trail.readings) (env.clock (trail.readings + 1)) window, s),
        { trail with readings := trail.readings + 2 }) := by
  unfold serve
  dsimp only
  rw [h]
  rfl

theorem effect_serve (e : Endpoint) (r : Request) : Effect env s trail (s.probe e env trail).1
    (s.serve e r env trail).1.2 (s.serve e r env trail).2 := by
  cases e with
  | current =>
    rw [probe_current, serve_current]
    refine ⟨⟨_, rfl⟩, s.monitor.lastStatus_probeStatus env trail,
      s.monitor.lastSpeedTest_probeStatus env trail, ?_,
      Nat.le_of_eq (s.monitor.readings_probeStatus env trail).symm⟩
    intro c hc
    rw [← Option.some.inj hc]
    exact s.monitor.checkedAt_probeStatus env trail
  | cached => exact .none rfl rfl rfl (Nat.le_refl _)
  | speedTest =>
    rw [probe_speedTest, serve_speedTest]
    refine ⟨⟨_, rfl⟩, s.monitor.lastStatus_probeSpeedTest s.token env trail,
      s.monitor.lastSpeedTest_probeSpeedTest s.token env trail, ?_,
      Nat.le_of_eq (s.monitor.readings_probeSpeedTest s.token env trail).symm⟩
    intro c hc
    rw [← Option.some.inj hc]
    exact s.monitor.testedAt_probeSpeedTest s.token env trail
  | history =>
    cases hwindow : queryWindow (r.values rangeName) with
    | error fault =>
      have hserve : s.serve .history r env trail = ((.text 400 fault.message, s), trail) := by
        unfold serve
        dsimp only
        rw [hwindow]
        rfl
      rw [hserve]
      exact .none rfl rfl rfl (Nat.le_refl _)
    | ok window =>
      rw [serve_history s trail hwindow]
      exact .none rfl rfl rfl (Nat.le_add_right _ 2)
  | bandwidth => exact .none rfl rfl rfl (Nat.le_refl _)
  | ping =>
    have htime := Monitor.timeless_machineIp s.monitor env
      { trail with readings := trail.readings + 1 }
    exact .none rfl (s.monitor.lastStatus_machineIp _ _) (s.monitor.lastSpeedTest_machineIp _ _)
      (Nat.le_trans (Nat.le_add_right _ 1) (Nat.le_of_eq htime.symm))

/-- The kind of what is found goes with the endpoint. -/
theorem endpointOf_probe {e : Endpoint} {c : Snapshot} (h : (s.probe e env trail).1 = some c) :
    endpointOf c.kind = e := by
  cases e with
  | current =>
    rw [← Option.some.inj h]
    rfl
  | speedTest =>
    rw [← Option.some.inj h]
    rfl
  | cached | history | bandwidth | ping => exact absurd h nofun

/-- Where nothing is found, nothing ever is. -/
theorem ne_endpointOf_of_probe {e : Endpoint} (h : (s.probe e env trail).1 = none)
    (kind : Snapshot.Kind) : e ≠ endpointOf kind := by
  rintro rfl
  cases kind <;> exact absurd h nofun

/-- The body that the handler makes is the text of what it has found. -/
theorem body_serve (e : Endpoint) (r : Request) {c : Snapshot}
    (h : (s.probe e env trail).1 = some c) : (s.serve e r env trail).1.1.body = c.encode := by
  cases e with
  | current =>
    rw [serve_current, ← Option.some.inj h]
    rfl
  | speedTest =>
    rw [serve_speedTest, ← Option.some.inj h]
    rfl
  | cached | history | bandwidth | ping => exact absurd h nofun

/-! ## Requests -/

/-- A request whose body is too long does nothing. -/
theorem count_long {r : Request} (h : maxBody < r.bodyLength) : s.count r env trail =
    (({ Answer.tooLong with allow := allowFor r }, s), trail) := by
  unfold count
  rw [if_pos h]
  rfl

/-- A request whose body is not too long is counted before it is handled, and its answer after. -/
theorem count_short {r : Request} (h : ¬ maxBody < r.bodyLength) :
    let dispatched := (s.taking r).dispatch r env trail
    s.count r env trail =
      ((dispatched.1.1, dispatched.1.2.giving dispatched.1.1), dispatched.2) := by
  have hcount : s.count r = (s.taking r).dispatch r >>= fun served =>
      pure (served.1, served.2.giving served.1) := if_neg h
  rw [hcount, Action.run_bind]
  generalize (s.taking r).dispatch r env trail = dispatched
  rfl

/-- A request that comes to a handler has a body that is not too long. -/
theorem dispatch_handled {r : Request} {e : Endpoint} (h : r.handler? = some e) :
    s.dispatch r = s.serve e r ∧ ¬ maxBody < r.bodyLength := by
  unfold Request.handler? at h
  split at h
  next => exact absurd h nofun
  next hshort =>
    obtain ⟨hpath, haccepts⟩ := Option.filter_eq_some_iff.mp h
    refine ⟨?_, hshort⟩
    unfold dispatch
    simp only [hpath, haccepts, if_true]

/-- Where there is no handler, there is an answer all the same, and nothing else happens. -/
theorem dispatch_unhandled (env : Environment) {r : Request} (hshort : ¬ maxBody < r.bodyLength)
    (h : r.handler? = none) : ∃ a, s.dispatch r env trail = ((a, s), trail) := by
  rw [Request.handler?, if_neg hshort] at h
  unfold dispatch
  cases hpath : Endpoint.ofPath? r.path with
  | none => exact ⟨_, rfl⟩
  | some e =>
    have haccepts : e.accepts r.method = false := by simpa [hpath] using h
    simp only [haccepts, Bool.false_eq_true, if_false]
    exact ⟨_, rfl⟩

theorem count_handled {r : Request} {e : Endpoint} (h : r.handler? = some e) :
    s.count r env trail = ((((s.taking r).serve e r env trail).1.1,
      ((s.taking r).serve e r env trail).1.2.giving ((s.taking r).serve e r env trail).1.1),
      ((s.taking r).serve e r env trail).2) := by
  obtain ⟨hdispatch, hshort⟩ := (s.taking r).dispatch_handled h
  rw [s.count_short trail hshort, hdispatch]

theorem effect_count_unhandled {r : Request} (h : r.handler? = none) :
    Effect env s trail none (s.count r env trail).1.2 (s.count r env trail).2 := by
  unfold count
  split
  next => exact .none rfl rfl rfl (Nat.le_refl _)
  next hshort =>
    rw [Request.handler?, if_neg hshort] at h
    unfold dispatch
    cases hpath : Endpoint.ofPath? r.path with
    | none => exact .none rfl rfl rfl (Nat.le_refl _)
    | some e =>
      have haccepts : e.accepts r.method = false := by simpa [hpath] using h
      simp only [haccepts, Bool.false_eq_true, if_false]
      exact .none rfl rfl rfl (Nat.le_refl _)

/-- What a request does depends on what is found for it. -/
theorem effect_count (r : Request) : Effect env s trail (s.find r env trail).1
    (s.count r env trail).1.2 (s.count r env trail).2 := by
  unfold find
  cases h : r.handler? with
  | none => exact effect_count_unhandled s trail h
  | some e =>
    have heffect : Effect env (s.taking r) trail _ _ _ := effect_serve (s.taking r) trail e r
    rw [count_handled s trail h]
    exact ⟨heffect.database, heffect.lastStatus, heffect.lastSpeedTest, heffect.takenAt,
      heffect.readings⟩

/-- A request that comes to neither of the handlers that find snapshots changes nothing that is
looked at. -/
theorem count_unchanged {r : Request} (hcurrent : r.handler? ≠ some .current)
    (htest : r.handler? ≠ some .speedTest) :
    (s.count r env trail).1.2.database = s.database ∧
      (s.count r env trail).1.2.monitor.lastStatus = s.monitor.lastStatus ∧
      (s.count r env trail).1.2.monitor.lastSpeedTest = s.monitor.lastSpeedTest := by
  have hfind : (s.find r env trail).1 = none := by
    unfold find
    cases h : r.handler? with
    | none => rfl
    | some e =>
      cases e with
      | current => exact absurd h hcurrent
      | speedTest => exact absurd h htest
      | cached | history | bandwidth | ping => rfl
  have heffect : Effect env s trail _ _ _ := effect_count s trail r
  rw [hfind] at heffect
  obtain ⟨_, hdatabase⟩ := heffect.database
  exact ⟨hdatabase, heffect.lastStatus, heffect.lastSpeedTest⟩

theorem answer_handled {r : Request} {e : Endpoint} (h : r.handler? = some e) :
    (s.answer r env trail).1.1 = sent r ((s.taking r).serve e r env trail).1.1 := by
  unfold answer
  rw [Action.run_bind, count_handled s trail h]
  rfl

/-- History is what the table holds, as of two readings of the clock. -/
theorem answer_history {r : Request} {window : Span} {t : Store.Table}
    (hr : r.handler? = some .history) (hwindow : queryWindow (r.values rangeName) = .ok window)
    (ht : s.database = ⟨some t⟩) : (s.answer r env trail).1.1 = sent r (.json (historyJson
      (t.recentStatuses (env.clock trail.readings) window)
      (t.recentSpeedTests (env.clock (trail.readings + 1)) window))) := by
  rw [answer_handled s trail hr, serve_history _ _ hwindow]
  unfold historyAnswer taking
  rw [ht]
  rfl

end Handlers

end Service

end EgressWatch.Api
