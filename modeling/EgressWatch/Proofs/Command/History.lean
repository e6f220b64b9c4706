import EgressWatch.Command.Run
import EgressWatch.Proofs.Api.Handler
import EgressWatch.Proofs.Store.Retention

/-!
# History on the command line and over the API

The command prints history after it has removed what is too old; the API shows it from the table as
it is. Within the retention of the configuration the two agree, since what is removed is out of
every such window:

> `history_unaffected_by_pruning`: removing what is older than some age changes no answer within
> that age, and so the command prints what the API shows at the same instants.

The first half is about tables alone and comes from the module on pruning. For the second half both
sides are brought to the table. A command line that asks for history under a configuration that is
found (`AsksToPrint`) prints the answers of the table that is left (`AsksToPrint.printed`), and a
request for it (`AsksToShow`) is answered from the table that is there (`AsksToShow.shown`). Both
read the clock for each of the two lists, and the command once more before, for the removal;
`SameInstants` says which readings have to be the same, and that the clock does not go back in
between.
-/

namespace EgressWatch.Command

open Net Store Time

/-- A command line that asks for the history of a range, under a configuration that is found, from a
database that opens with a table. -/
structure AsksToPrint (host : Host) (disk : Disk) (arguments : List String) (range : String)
    (config : Config) (t : Table) : Prop where
  line : ∃ path, readLine arguments = .ok ⟨path, .history range⟩ ∧
    Config.resolve disk path host.configVariable = .ok config
  opens : disk.openDatabase config.server.dbPath = .ok ⟨some t⟩

/-- A request to a service over a table for the history of a range. -/
structure AsksToShow (service : Api.Service) (request : Api.Request) (range : String)
    (t : Table) : Prop where
  database : service.database = ⟨some t⟩
  method : request.method = "GET"
  path : request.path = Api.Endpoint.history.path
  query : request.values Api.rangeName = [range]
  body : request.bodyLength ≤ Api.maxBody

/-- The clock as a command reads it, once before it removes rows and twice before it asks, and as a
request reads it that asks at the same two instants. The clock does not go back. -/
structure SameInstants (env : Environment) (trail : Trail) (env' : Environment)
    (trail' : Trail) : Prop where
  reading : ∀ i ≤ 2, (env.clock (trail.readings + i)).Reading
  onward : ∀ i ≤ 2, ¬ env.clock (trail.readings + i) < env.clock trail.readings
  first : env'.clock trail'.readings = env.clock (trail.readings + 1)
  second : env'.clock (trail'.readings + 1) = env.clock (trail.readings + 2)

section Answers

variable {host : Host} {config : Config} {disk : Disk} {arguments : List String} {t : Table}
  {range : String} {window : Span} {service : Api.Service} {request : Api.Request}

/-- What the command prints: what the table holds after what is too old has been removed. -/
theorem AsksToPrint.printed (h : AsksToPrint host disk arguments range config t)
    (hwindow : window? range = some window) (env : Environment) (trail : Trail) :
    let pruned := (t.pruneOlderThan (env.clock trail.readings) config.retention.maxAge).2
    (runLine host disk arguments env trail).1.1 = { code := 0, out := (Api.historyJson
      (pruned.recentStatuses (env.clock (trail.readings + 1)) window)
      (pruned.recentSpeedTests (env.clock (trail.readings + 2)) window)).pretty ++ "\n" } := by
  intro pruned
  obtain ⟨path, hline, hconfig⟩ := h.line
  have hrun : ((Task.history range).run host config disk env trail).1.1 = .printed
      ((Api.historyJson (pruned.recentStatuses (env.clock (trail.readings + 1)) window)
        (pruned.recentSpeedTests (env.clock (trail.readings + 2)) window)).pretty ++ "\n") := by
    simp only [Task.run, runHistory, hwindow, openStore, h.opens]
    rfl
  simp only [runLine, hline, Invocation.run, hconfig]
  exact congrArg Outcome.exit hrun

/-- What the service shows: what the table holds. -/
theorem AsksToShow.shown (h : AsksToShow service request range t)
    (hwindow : window? range = some window) (env : Environment) (trail : Trail) :
    (service.answer request env trail).1.1 = .json (Api.historyJson
      (t.recentStatuses (env.clock trail.readings) window)
      (t.recentSpeedTests (env.clock (trail.readings + 1)) window)) := by
  have hhead : (request.method == "HEAD") = false := by
    rw [h.method]
    decide
  have hhandler : request.handler? = some .history := by
    rw [Api.Request.handler?, if_neg (Nat.not_lt.mpr h.body), h.path, Api.Endpoint.ofPath?_path,
      h.method]
    decide
  have hquery : Api.queryWindow (request.values Api.rangeName) = .ok window := by
    rw [h.query]
    simp [Api.queryWindow, hwindow]
  rw [service.answer_history trail hhandler hquery h.database, Api.Service.sent, hhead]
  rfl

end Answers

/-- Removing what is older than some age changes no answer within that age, whatever the rows hold.
So the command, which removes first, prints the history that the API shows of the whole table at the
same instants. -/
theorem history_unaffected_by_pruning {t : Table} (ht : Stamped t) :
    (∀ {now₁ now₂ : Instant} {age window : Span}, now₁.Reading → now₂.Reading → ¬ now₂ < now₁ →
      window ≤ age →
        (t.pruneOlderThan now₁ age).2.recentStatuses now₂ window = t.recentStatuses now₂ window ∧
        (t.pruneOlderThan now₁ age).2.recentSpeedTests now₂ window =
          t.recentSpeedTests now₂ window) ∧
    ∀ {host : Host} {disk : Disk} {arguments : List String} {config : Config} {range : String}
      {window : Span} {service : Api.Service} {request : Api.Request} {env env' : Environment}
      {trail trail' : Trail},
      window? range = some window → window ≤ config.retention.maxAge →
      AsksToPrint host disk arguments range config t → AsksToShow service request range t →
      SameInstants env trail env' trail' →
        let history := Api.historyJson
          (t.recentStatuses (env.clock (trail.readings + 1)) window)
          (t.recentSpeedTests (env.clock (trail.readings + 2)) window)
        (runLine host disk arguments env trail).1.1 = { code := 0, out := history.pretty ++ "\n" } ∧
          (service.answer request env' trail').1.1 = .json history := by
  refine ⟨fun h₁ h₂ hle hw => ⟨recentStatuses_pruned ht h₁ h₂ hle hw,
    recentSpeedTests_pruned ht h₁ h₂ hle hw⟩, ?_⟩
  intro host disk arguments config range window service request env env' trail trail' hwindow hw
    hprint hshow hclock history
  have h₀ : (env.clock trail.readings).Reading := hclock.reading 0 (by decide)
  have h₁ := hclock.reading 1 (by decide)
  have h₂ := hclock.reading 2 (by decide)
  constructor
  · rw [hprint.printed hwindow, recentStatuses_pruned ht h₀ h₁ (hclock.onward 1 (by decide)) hw,
      recentSpeedTests_pruned ht h₀ h₂ (hclock.onward 2 (by decide)) hw]
  · rw [hshow.shown hwindow, hclock.first, hclock.second]

/-- A damaged row a month old is removed before a week of history is printed. -/
theorem history_unaffected_by_pruning_week :
    let monthOld : Instant := { day := 19700, second := 0, nano := 0 }
    let recent : Instant := { day := 19729, second := 3600, nano := 5 }
    let first : Instant := { day := 19730, second := 0, nano := 0 }
    let second : Instant := { day := 19730, second := 0, nano := 250 }
    let status : Status := ⟨"192.0.2.1", "", "", "", false, true, 7, none, none, recent⟩
    let t : Table := ⟨[⟨1, .text "status", .blob [0], stampCell monthOld⟩,
      ⟨2, .text "status", .text (Snapshot.status status).encode, stampCell recent⟩]⟩
    let host : Host := { configVariable := none, refusal := fun _ => none }
    let disk : Disk := { entries := [(["data", "tunnelmon.db"], .database ⟨some t⟩)] }
    let service : Api.Service := ⟨.withSources {} .direct (.echo "" .direct) (.register "") first,
      ⟨some t⟩, {}⟩
    let request : Api.Request := { method := "GET", target := "/status/api/history?range=7d" }
    let env : Environment := {
      network := .unreachable, clock := fun i => if i = 0 then first else second }
    let env' : Environment := { network := .unreachable, clock := fun _ => second }
    let history := Api.historyJson (t.recentStatuses second (.ofHours 168))
      (t.recentSpeedTests second (.ofHours 168))
    Stamped t ∧ window? "7d" = some (.ofHours 168) ∧
      AsksToPrint host disk ["history", "--range", "7d"] "7d" {} t ∧
      AsksToShow service request "7d" t ∧ SameInstants env {} env' {} ∧
      (runLine host disk ["history", "--range", "7d"] env {}).1.1 =
        { code := 0, out := history.pretty ++ "\n" } ∧
      (service.answer request env' {}).1.1 = .json history := by
  intro monthOld recent first second status t host disk service request env env' history
  have hstamped : Stamped t := by
    intro r hr
    rcases List.mem_cons.mp hr with rfl | hr
    · exact ⟨monthOld, by decide, rfl⟩
    · rw [List.mem_singleton.mp hr]
      exact ⟨recent, by decide, rfl⟩
  have hwindow : window? "7d" = some (.ofHours 168) := by decide +kernel
  have hprint : AsksToPrint host disk ["history", "--range", "7d"] "7d" {} t := by
    refine ⟨⟨none, rfl, ?_⟩, ?_⟩
    · exact congrArg Except.ok (by decide +kernel)
    · exact eq_ok_of_toOption (by decide +kernel)
  have hshow : AsksToShow service request "7d" t :=
    ⟨rfl, rfl, by decide +kernel, by decide +kernel, by decide⟩
  have hclock : SameInstants env {} env' {} := by
    refine ⟨fun i _ => ?_, fun i _ => ?_, rfl, rfl⟩
    · show (if 0 + i = 0 then first else second).Reading
      split
      next => exact ⟨by decide, by decide⟩
      next => exact ⟨by decide, by decide⟩
    · show ¬ (if 0 + i = 0 then first else second) < first
      split
      next => decide
      next => decide
  exact ⟨hstamped, hwindow, hprint, hshow, hclock,
    (history_unaffected_by_pruning hstamped).2 hwindow (by decide) hprint hshow hclock⟩

end EgressWatch.Command
