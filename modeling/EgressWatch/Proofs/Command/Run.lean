import EgressWatch.Command.Run
import EgressWatch.Proofs.Monitor.Probe
import EgressWatch.Proofs.Store.Pruning

/-!
# What a command line comes to

A command line that is read under a configuration that is found comes to its task (`runLine_eq`). A
task that probes comes to a probe of the monitor that the configuration makes, if it makes one, and
to what is done with the snapshot (`runStatus_eq`, `runSpeedTest_eq`); a task that opens the
database finds it without the rows that are too old (`openStore_opened`), or ends there
(`openStore_failed`).

These equations open the tasks for all that is said of command lines: what they leave behind, what
they print, and to whom they show a token. Each keeps the trail explicit, since it counts the
readings of the clock, and which reading a removal or a snapshot goes by is part of what is claimed
later.
-/

namespace EgressWatch.Command

open Net Store Time

variable {host : Host} {disk : Disk} {arguments : List String} {config : Config}
  (env : Environment) (trail : Trail)

theorem runLine_eq {i : Invocation} (hline : readLine arguments = .ok i)
    (hconfig : Config.resolve disk i.config host.configVariable = .ok config) :
    runLine host disk arguments env trail =
      let ended := i.task.run host config disk env trail
      ((ended.1.1.exit, ended.1.2), ended.2) := by
  simp only [runLine, hline, Invocation.run, hconfig]
  rfl

/-! ## Probes -/

theorem makeMonitor_eq : makeMonitor config env trail =
    ((Monitor.ofConfig config (env.clock trail.readings)).mapError .proxy,
      { trail with readings := trail.readings + 1 }) := rfl

theorem runStatus_eq {m : Monitor} (save : Bool)
    (hm : Monitor.ofConfig config (env.clock trail.readings) = .ok m) :
    runStatus config disk save env trail =
      let found := m.probeStatus env { trail with readings := trail.readings + 1 }
      finishProbe config disk save (.status found.1.1) env found.2 := by
  rw [runStatus, Action.run_bind, makeMonitor_eq, hm]
  rfl

theorem runSpeedTest_eq {m : Monitor} (given : Option String) (save : Bool)
    (hm : Monitor.ofConfig config (env.clock trail.readings) = .ok m) :
    runSpeedTest config disk given save env trail =
      let found := m.probeSpeedTest (effectiveToken config given) env
        { trail with readings := trail.readings + 1 }
      finishProbe config disk save (.speedTest found.1.1) env found.2 := by
  rw [runSpeedTest, Action.run_bind, makeMonitor_eq, hm]
  rfl

/-! ## The database -/

theorem openStore_failed {fault : OpenFault}
    (h : disk.openDatabase config.server.dbPath = .error fault) :
    openStore config disk env trail = (.error (.disk fault), trail) := by
  rw [openStore, h]
  rfl

/-- An opened database has lost the rows that are too old. -/
theorem openStore_opened {t : Table} (h : disk.openDatabase config.server.dbPath = .ok ⟨some t⟩) :
    let fresh := t.unexpired ((env.clock trail.readings).ago config.retention.maxAge)
    openStore config disk env trail =
      (.ok (⟨some fresh⟩, disk.keep config.server.dbPath ⟨some fresh⟩),
        { trail with readings := trail.readings + 1 }) := by
  intro fresh
  have hpruned : Database.openedAndPruned ⟨some t⟩ (env.clock trail.readings)
      config.retention.maxAge = ⟨some fresh⟩ := by
    rw [Database.openedAndPruned_eq]
    exact congrArg (fun left => Database.mk (some (Prod.snd left))) (Table.pruneBefore_eq t _)
  rw [openStore, h, ← hpruned]
  rfl

end EgressWatch.Command
