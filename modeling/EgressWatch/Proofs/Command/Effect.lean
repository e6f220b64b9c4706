import EgressWatch.Proofs.Command.Run
import EgressWatch.Proofs.Snapshot.Rearranged
import EgressWatch.Proofs.Store.Numbers
import EgressWatch.Proofs.Time.Cutoff

/-!
# What commands do to the table

Whether a command keeps anything is decided in an order of its own: a probe is made before the
database is opened, a range is read before, and pruning by hand does not go by the retention. Until
the database is opened the disk stays as it is, and from then on its table has exactly what
`commands_leave` says, with all else on the disk as it was (`Disk.Leaves`).

The theorem goes through the tasks one by one. A task that is `Idle` ends before it comes to the
database (`idle_left`), and one that cannot open it changes nothing (`unopened_left`). Of the others
each has a lemma that says what it leaves: `history_left`, `serve_left` and `prune_left`, and for
the two probes `status_kept` and `speedTest_kept`, which say it as `Kept`: the rows that are not too
old with one more in its place, or these alone if there is no number left for one.

Pruning by hand removes what lies more than so many hours back, counted without bounds, and keeps
all that does not, with one exception: where the hours lead out of the calendar it removes the rows
from before 1970, though they are no older than that (`prune_cuts_epoch`).
-/

namespace EgressWatch

open Json (readAll_compact)
open Net Store Time

/-! ## The disk -/

namespace Store.Disk

variable {disk left : Disk} {path other : String} {t t' : Table}

/-- On what is left of a disk the database at a path has a table, and what is elsewhere has not
changed. -/
structure Leaves (disk : Disk) (path : String) (t : Table) (left : Disk) : Prop where
  folder : left.folder = disk.folder
  table : left.find? path = some (.database ⟨some t⟩)
  elsewhere : ∀ other, Place.ofPath disk.folder other ≠ .ofPath disk.folder path →
    left.find? other = disk.find? other

theorem find?_put_self (disk : Disk) (path : String) (e : Entry) :
    (disk.put path e).find? path = some e := by
  simp [find?, put]

theorem find?_put_of_ne (e : Entry)
    (h : Place.ofPath disk.folder other ≠ .ofPath disk.folder path) :
    (disk.put path e).find? other = disk.find? other := by
  have hne : ¬ Place.ofPath disk.folder path = .ofPath disk.folder other := Ne.symm h
  rw [find?, find?, put, List.find?_cons_of_neg (by simpa using hne), List.find?_filter]
  congr 2
  funext e
  by_cases he : e.1 = Place.ofPath disk.folder other
  · simp [he, h]
  · simp [he]

/-- The table that is left, in another form. -/
theorem Leaves.table_of_eq (h : disk.Leaves path t left) (heq : t = t') :
    left.find? path = some (.database ⟨some t'⟩) := by
  rw [h.table, heq]

/-- A table that is kept replaces the one that was there. -/
theorem Leaves.keep (h : disk.Leaves path t left) (t' : Table) :
    disk.Leaves path t' (left.keep path ⟨some t'⟩) where
  folder := h.folder
  table := find?_put_self ..
  elsewhere other hother := by
    rw [← h.elsewhere other hother]
    exact find?_put_of_ne _ (h.folder ▸ hother)

theorem leaves_keep (disk : Disk) (path : String) (t : Table) :
    disk.Leaves path t (disk.keep path ⟨some t⟩) where
  folder := rfl
  table := find?_put_self ..
  elsewhere _ hother := find?_put_of_ne _ hother

end Store.Disk

namespace Command

/-- The task ends before it comes to the database. -/
inductive Idle (config : Config) : Task → Prop
  | status : Idle config (.status false)
  | speedTest {given : Option String} : Idle config (.speedTest given false)
  | noStatus {save : Bool} {fault : ProxyFault}
      (h : tunnelProxy config.tunnel.proxyUrl = .error fault) : Idle config (.status save)
  | noSpeedTest {given : Option String} {save : Bool} {fault : ProxyFault}
      (h : tunnelProxy config.tunnel.proxyUrl = .error fault) : Idle config (.speedTest given save)
  | history {range : String} (h : window? range = none) : Idle config (.history range)

/-- A snapshot is printed in lines, and is kept without space in a new row under a number of its
own, as long as there is one. -/
structure Kept (disk : Disk) (path : String) (t : Table) (draws : Draws) (s : Snapshot)
    (exit : Exit) (left : Disk) : Prop where
  printed : exit = { code := 0, out := s.toJson.pretty ++ "\n" }
  added : ∀ id, t.freeId? draws = some id → disk.Leaves path
    (t.place ⟨id, .text s.kind.tag, .text s.toJson.compact, stampCell s.takenAt⟩) left
  apart : ∀ id, t.freeId? draws = some id → Numbered t.rows → ∀ r ∈ t.rows, r.id ≠ id
  full : t.freeId? draws = none → disk.Leaves path t left

section Tasks

variable {host : Host} {disk : Disk} {config : Config} {t : Table} {env : Environment}
  {trail : Trail}

/-- A snapshot that is kept goes after the rows that are not too old at the next reading of the
clock. -/
theorem finishProbe_kept {reading : Nat} (hreading : trail.readings = reading)
    (h : disk.openDatabase config.server.dbPath = .ok ⟨some t⟩) (s : Snapshot) :
    let ended := (finishProbe config disk true s env trail).1
    Kept disk config.server.dbPath
      (t.unexpired ((env.clock reading).ago config.retention.maxAge))
      (env.draws { trail with readings := trail.readings + 1 }) s ended.1.exit ended.2 := by
  subst hreading
  unfold finishProbe
  rw [if_pos rfl, Action.run_bind, openStore_opened env trail h]
  generalize t.unexpired _ = fresh
  generalize hdraws : env.draws { trail with readings := trail.readings + 1 } = draws
  have hdrawn : readDraws env { trail with readings := trail.readings + 1 } =
      (draws, { trail with readings := trail.readings + 1 }) := by rw [← hdraws]; rfl
  dsimp only
  rw [Action.run_bind, hdrawn, Database.keep_some, Table.save?]
  refine ⟨rfl, fun id hid => ?_, fun id hid hnumbered => freeId?_fresh hnumbered hid, fun hid => ?_⟩
  · rw [hid]
    exact (Disk.leaves_keep ..).keep _
  · rw [hid]
    exact (Disk.leaves_keep ..).keep _

theorem makeMonitor_rejected {fault : ProxyFault}
    (h : tunnelProxy config.tunnel.proxyUrl = .error fault) :
    makeMonitor config env trail = (.error (.proxy fault),
      { trail with readings := trail.readings + 1 }) := by
  rw [makeMonitor_eq, Monitor.ofConfig, h]
  rfl

theorem runStatus_left {save : Bool}
    (h : ∀ s trail, (finishProbe config disk save s env trail).1.2 = disk) :
    (runStatus config disk save env trail).1.2 = disk := by
  rw [runStatus, Action.run_bind]
  cases (makeMonitor config env trail).1 with
  | error failure => rfl
  | ok m => exact h _ _

theorem runSpeedTest_left {given : Option String} {save : Bool}
    (h : ∀ s trail, (finishProbe config disk save s env trail).1.2 = disk) :
    (runSpeedTest config disk given save env trail).1.2 = disk := by
  rw [runSpeedTest, Action.run_bind]
  cases (makeMonitor config env trail).1 with
  | error failure => rfl
  | ok m => exact h _ _

/-- Serving at another address leaves what serving leaves. -/
theorem runServe_left (host : Host) (bind : Option String) : ∃ config' : Config,
    config'.server.dbPath = config.server.dbPath ∧ config'.retention = config.retention ∧
      (runServe host config disk bind env trail).1.2 =
        (startService host.refusal config' disk env trail).1.2 := by
  refine ⟨{ config with server := { config.server with bind := bind.getD config.server.bind } },
    rfl, rfl, ?_⟩
  unfold runServe
  rw [Action.run_bind]
  rcases (startService host.refusal _ disk env trail).1 with ⟨failure | service, left⟩
  · rfl
  · rfl

theorem idle_left {task : Task} (h : Idle config task) :
    (task.run host config disk env trail).1.2 = disk := by
  cases h with
  | status => exact runStatus_left fun _ _ => rfl
  | speedTest => exact runSpeedTest_left fun _ _ => rfl
  | noStatus h =>
    show (runStatus config disk _ env trail).1.2 = disk
    rw [runStatus, Action.run_bind, makeMonitor_rejected h]
    rfl
  | noSpeedTest h =>
    show (runSpeedTest config disk _ _ env trail).1.2 = disk
    rw [runSpeedTest, Action.run_bind, makeMonitor_rejected h]
    rfl
  | history h =>
    show (runHistory config disk _ env trail).1.2 = disk
    rw [runHistory, h]
    rfl

theorem finishProbe_unopened {fault : OpenFault}
    (h : disk.openDatabase config.server.dbPath = .error fault) (save : Bool) (s : Snapshot)
    (trail : Trail) : (finishProbe config disk save s env trail).1.2 = disk := by
  unfold finishProbe
  cases save with
  | false => rfl
  | true =>
    rw [if_pos rfl, Action.run_bind, openStore_failed env trail h]
    rfl

theorem unopened_left {task : Task} {fault : OpenFault}
    (h : disk.openDatabase config.server.dbPath = .error fault) :
    (task.run host config disk env trail).1.2 = disk := by
  cases task with
  | serve bind =>
    obtain ⟨config', hpath, -, heq⟩ := runServe_left host bind
    rw [Task.run, heq, startService, Action.run_bind, openStore_failed env trail (hpath ▸ h)]
    rfl
  | status save => exact runStatus_left (finishProbe_unopened h save)
  | speedTest given save => exact runSpeedTest_left (finishProbe_unopened h save)
  | history range =>
    show (runHistory config disk range env trail).1.2 = disk
    rw [runHistory]
    cases window? range with
    | none => rfl
    | some window =>
      dsimp only
      rw [Action.run_bind, openStore_failed env trail h]
      rfl
  | prune hours =>
    show (runPrune config disk hours env trail).1.2 = disk
    rw [runPrune, h]
    rfl

theorem history_left {range : String} {window : Span} (hwindow : window? range = some window)
    (h : disk.openDatabase config.server.dbPath = .ok ⟨some t⟩) :
    disk.Leaves config.server.dbPath
      (t.unexpired ((env.clock trail.readings).ago config.retention.maxAge))
      (runHistory config disk range env trail).1.2 := by
  unfold runHistory
  rw [hwindow]
  dsimp only
  rw [Action.run_bind, openStore_opened env trail h]
  exact Disk.leaves_keep ..

theorem serve_left {bind : Option String}
    (h : disk.openDatabase config.server.dbPath = .ok ⟨some t⟩) :
    disk.Leaves config.server.dbPath
      (t.unexpired ((env.clock trail.readings).ago config.retention.maxAge))
      (runServe host config disk bind env trail).1.2 := by
  obtain ⟨config', hpath, hretention, heq⟩ := runServe_left host bind
  rw [heq, startService, Action.run_bind, openStore_opened env trail (hpath ▸ h), hpath, hretention]
  dsimp only
  rw [Action.run_bind]
  cases (makeMonitor config' env _).1 with
  | error failure => exact Disk.leaves_keep ..
  | ok m =>
    dsimp only
    cases listen host.refusal config'.server.bind with
    | error failure => exact Disk.leaves_keep ..
    | ok socket => exact Disk.leaves_keep ..

/-- Removing by hand goes by the hours that are given, or else by those of the configuration. -/
theorem prune_left (given : Option UInt64)
    (h : disk.openDatabase config.server.dbPath = .ok ⟨some t⟩) :
    let hours := given.getD config.retention.maxAgeHours
    let bound := (env.clock trail.readings).ago (hoursSpan hours)
    let ended := (runPrune config disk given env trail).1
    ended.1.exit = { code := 0, out := prunedText (t.expired bound).length (hoursSpan hours) } ∧
      disk.Leaves config.server.dbPath (t.unexpired bound) ended.2 := by
  intro hours bound
  have hage : (given.map hoursSpan).getD config.retention.maxAge = hoursSpan hours := by
    cases given with
    | none => rfl
    | some hours => rfl
  have hclock : readClock env trail =
      (env.clock trail.readings, { trail with readings := trail.readings + 1 }) := rfl
  have hpruned (age : Span) : Database.pruneOlderThan ⟨some t⟩ (env.clock trail.readings) age =
      .ok ((t.expired _).length, ⟨some (t.unexpired _)⟩) := Database.pruneBefore_some t _
  have hrun : (runPrune config disk given env trail).1 =
      (.printed (prunedText (t.expired bound).length (hoursSpan hours)),
        disk.keep config.server.dbPath ⟨some (t.unexpired bound)⟩) := by
    simp only [runPrune, h, hage, Action.run_bind, hclock, hpruned]
    rfl
  rw [hrun]
  exact ⟨rfl, Disk.leaves_keep ..⟩

theorem exists_monitor {proxy : Option Url}
    (h : tunnelProxy config.tunnel.proxyUrl = .ok proxy) (now : Instant) :
    ∃ m, Monitor.ofConfig config now = .ok m := ⟨_, Monitor.ofConfig_eq h now⟩

theorem status_kept {m : Monitor} (hm : Monitor.ofConfig config (env.clock trail.readings) = .ok m)
    (h : disk.openDatabase config.server.dbPath = .ok ⟨some t⟩) :
    let checked := m.probeStatus env { trail with readings := trail.readings + 1 }
    let ended := (runStatus config disk true env trail).1
    Kept disk config.server.dbPath
      (t.unexpired ((env.clock (trail.readings + 2)).ago config.retention.maxAge))
      (env.draws { checked.2 with readings := checked.2.readings + 1 }) (.status checked.1.1)
      ended.1.exit ended.2 := by
  intro checked ended
  have hended : ended = _ := congrArg Prod.fst (runStatus_eq env trail true hm)
  rw [hended]
  -- the monitor and the check have each read the clock before the database is opened
  have hreading : checked.2.readings = trail.readings + 2 := m.readings_probeStatus env _
  exact finishProbe_kept hreading h (.status checked.1.1)

theorem speedTest_kept {m : Monitor} (given : Option String)
    (hm : Monitor.ofConfig config (env.clock trail.readings) = .ok m)
    (h : disk.openDatabase config.server.dbPath = .ok ⟨some t⟩) :
    let tested := m.probeSpeedTest (effectiveToken config given) env
      { trail with readings := trail.readings + 1 }
    let ended := (runSpeedTest config disk given true env trail).1
    Kept disk config.server.dbPath
      (t.unexpired ((env.clock (trail.readings + 2)).ago config.retention.maxAge))
      (env.draws { tested.2 with readings := tested.2.readings + 1 }) (.speedTest tested.1.1)
      ended.1.exit ended.2 := by
  intro tested ended
  have hended : ended = _ := congrArg Prod.fst (runSpeedTest_eq env trail given true hm)
  rw [hended]
  have hreading : tested.2.readings = trail.readings + 2 := m.readings_probeSpeedTest _ env _
  exact finishProbe_kept hreading h (.speedTest tested.1.1)

/-- What is left of the rows when so many hours have been cut off: all that does not lie further
back, but nothing from before the epoch where one cannot go back by the hours. -/
theorem mem_unexpired_hoursSpan_iff {now made : Instant} (hnow : now.Reading) {r : Row}
    (hr : r ∈ t.rows) (hmade : r.created = stampCell made) (hyear : made.PlainYear)
    (hours : UInt64) : r ∈ (t.unexpired (now.ago (hoursSpan hours))).rows ↔
      ¬ (made.CutBefore (now.hoursBefore hours) ∨
        ¬ now.Reaches (hoursSpan hours) ∧ made.cut < Instant.epoch.cut) := by
  rw [Table.mem_unexpired_iff hr hmade hyear (hnow.year_ago_le _),
    Instant.cut_lt_ago_iff_or hnow.nano_lt, Instant.cutBefore_hoursSpan_iff]

end Tasks

/-- A command line that cannot be read or finds no configuration leaves the disk as it is, and so
does one whose task is idle or cannot open the database. Otherwise a probe leaves the rows that are
not too old, which it looks for once the monitor and the probe have read the clock, and among them
its own, with the text of the value that it prints; what is printed of a status reads as what is
kept of it. History and serving leave the rows that are not too old. Removing by hand goes by the
hours that are given, or else by those of the configuration, and by no others, and prints how many
rows it has removed: those that lie further back than the hours, and where one cannot go back so far
those from before the epoch. -/
theorem commands_leave (host : Host) (disk : Disk) (arguments : List String) (env : Environment)
    (trail : Trail) :
    let exit := (runLine host disk arguments env trail).1.1
    let left := (runLine host disk arguments env trail).1.2
    (∀ stop, readLine arguments = .error stop → left = disk) ∧
    ∀ i, readLine arguments = .ok i →
      (∀ fault, Config.resolve disk i.config host.configVariable = .error fault → left = disk) ∧
      ∀ config, Config.resolve disk i.config host.configVariable = .ok config →
        let path := config.server.dbPath
        let retention := config.retention.maxAge
        (Idle config i.task → left = disk) ∧
        (∀ fault, disk.openDatabase path = .error fault → left = disk) ∧
        ∀ t, disk.openDatabase path = .ok ⟨some t⟩ →
          let fresh (reading : Nat) : Table :=
            t.unexpired ((env.clock (trail.readings + reading)).ago retention)
          match i.task with
          | .status save =>
            ∀ proxy, tunnelProxy config.tunnel.proxyUrl = .ok proxy → save = true →
              ∃ m, Monitor.ofConfig config (env.clock trail.readings) = .ok m ∧
              let checked := m.probeStatus env { trail with readings := trail.readings + 1 }
              let draws := env.draws { checked.2 with readings := checked.2.readings + 1 }
              Kept disk path (fresh 2) draws (.status checked.1.1) exit left ∧
                Status.decode checked.1.1.toJson.compact = .ok checked.1.1 ∧
                Status.decode exit.out = .ok checked.1.1
          | .speedTest given save =>
            ∀ proxy, tunnelProxy config.tunnel.proxyUrl = .ok proxy → save = true →
              ∃ m, Monitor.ofConfig config (env.clock trail.readings) = .ok m ∧
              let tested := m.probeSpeedTest (effectiveToken config given) env
                { trail with readings := trail.readings + 1 }
              let draws := env.draws { tested.2 with readings := tested.2.readings + 1 }
              Kept disk path (fresh 2) draws (.speedTest tested.1.1) exit left
          | .history range => ∀ window, window? range = some window →
              disk.Leaves path (fresh 0) left
          | .prune given =>
            let hours := given.getD config.retention.maxAgeHours
            let now := env.clock trail.readings
            let bound := now.ago (hoursSpan hours)
            exit = { code := 0, out := prunedText (t.expired bound).length (hoursSpan hours) } ∧
              disk.Leaves path (t.unexpired bound) left ∧
              ∀ r ∈ t.rows, ∀ made : Instant, r.created = stampCell made → made.PlainYear →
                (bound.date.year ≤ 9999 →
                  (r ∈ (t.unexpired bound).rows ↔ ¬ made.cut < bound.cut)) ∧
                (now.Reading → (r ∈ (t.unexpired bound).rows ↔
                  ¬ (made.CutBefore (now.hoursBefore hours) ∨
                    ¬ now.Reaches (hoursSpan hours) ∧ made.cut < Instant.epoch.cut)))
          | .serve _ => disk.Leaves path (fresh 0) left := by
  intro exit left
  refine ⟨fun stop hline => ?_, ?_⟩
  · show (runLine host disk arguments env trail).1.2 = disk
    rw [runLine, hline]
    rfl
  rintro ⟨asked, task⟩ hline
  refine ⟨fun fault hconfig => ?_, fun config hconfig => ?_⟩
  · show (runLine host disk arguments env trail).1.2 = disk
    simp only [runLine, hline, Invocation.run, hconfig]
    rfl
  intro path retention
  -- from here on only the task matters, not the words that asked for it
  have hrun := congrArg Prod.fst (runLine_eq env trail hline hconfig)
  have hexit : exit = (task.run host config disk env trail).1.1.exit := congrArg Prod.fst hrun
  have hleft : left = (task.run host config disk env trail).1.2 := congrArg Prod.snd hrun
  rw [hexit, hleft]
  refine ⟨idle_left, fun fault h => unopened_left h, fun t h => ?_⟩
  intro fresh
  cases task with
  | serve bind => exact serve_left h
  | status save =>
    rintro proxy hproxy rfl
    obtain ⟨m, hm⟩ := exists_monitor hproxy (env.clock trail.readings)
    refine ⟨m, hm, ?_⟩
    intro checked draws
    have hkept := status_kept hm h
    refine ⟨hkept, readAll_compact checked.1.1.readsAs_toJson, ?_⟩
    exact (congrArg (fun exit => Status.decode (Exit.out exit)) hkept.printed).trans
      checked.1.1.decode_pretty
  | speedTest given save =>
    rintro proxy hproxy rfl
    obtain ⟨m, hm⟩ := exists_monitor hproxy (env.clock trail.readings)
    exact ⟨m, hm, speedTest_kept given hm h⟩
  | history range => exact fun window hwindow => history_left hwindow h
  | prune given =>
    obtain ⟨hexit, hleaves⟩ := prune_left given h
    exact ⟨hexit, hleaves, fun r hr made hmade hyear =>
      ⟨Table.mem_unexpired_iff hr hmade hyear,
        fun hnow => mem_unexpired_hoursSpan_iff hnow hr hmade hyear _⟩⟩

/-- Nothing may get old: a status check removes what was there but the row with bytes for a stamp,
and keeps its own row, which is older than the bound by then. Removing what is older than an hour
leaves the row of half an hour ago. -/
theorem commands_leave_no_retention :
    let config : Config := { retention := { maxAgeHours := 0 } }
    let monthOld : Instant := { day := 19700, second := 0, nano := 0 }
    let recent : Instant := { day := 19730, second := 1800, nano := 0 }
    let early : Instant := { day := 19730, second := 3600, nano := 0 }
    let late : Instant := { day := 19730, second := 3600, nano := 5000 }
    let odd : Row := ⟨7, .blob [1], .text "", .blob []⟩
    let t : Table := ⟨[⟨1, .text "other", .blob [0], stampCell monthOld⟩,
      ⟨2, .text "speedtest", .text "\x7b", stampCell recent⟩, odd]⟩
    let disk : Disk := { entries := [
      (["etc", "tunnelmon", "tunnelmon.toml"], .text "[retention]\nmax_age_hours = 0\n"),
      (["data", "tunnelmon.db"], .database ⟨some t⟩)] }
    let host : Host := { configVariable := none, refusal := fun _ => none }
    let env : Environment := {
      network := .unreachable, clock := fun i => if i < 2 then early else late }
    let checked := (runLine host disk ["status"] env {}).1
    let pruned := (runLine host disk ["prune", "--older-than-hours", "1"] env {}).1
    Config.resolve disk none none = .ok config ∧
      disk.openDatabase config.server.dbPath = .ok ⟨some t⟩ ∧
      (∃ payload, checked.2.find? config.server.dbPath = some (.database
        ⟨some ⟨[odd, ⟨8, .text "status", .text payload, stampCell early⟩]⟩⟩)) ∧
      (stampCell early).before (stampCell late) ∧
      pruned.1 = { code := 0, out := "Removed 1 record(s) older than 1h.\n" } ∧
      pruned.2.find? config.server.dbPath = some (.database ⟨some ⟨t.rows.drop 1⟩⟩) := by
  intro config monthOld recent early late odd t disk host env checked pruned
  have hconfig : Config.resolve disk none none = .ok config := eq_ok_of_toOption (by decide +kernel)
  have hopen : disk.openDatabase config.server.dbPath = .ok ⟨some t⟩ :=
    eq_ok_of_toOption (by decide +kernel)
  have hstatus : readLine ["status"] = .ok ⟨none, .status true⟩ :=
    eq_ok_of_toOption (by decide +kernel)
  have hprune : readLine ["prune", "--older-than-hours", "1"] = .ok ⟨none, .prune (some 1)⟩ :=
    eq_ok_of_toOption (by decide +kernel)
  refine ⟨hconfig, hopen, ?_, by decide +kernel, ?_⟩
  · obtain ⟨-, -, hkept⟩ := ((commands_leave host disk _ env {}).2 _ hstatus).2 config hconfig
    obtain ⟨m, -, hkept, -⟩ := hkept t hopen none rfl rfl
    have hfresh : t.unexpired (late.ago config.retention.maxAge) = ⟨[odd]⟩ := by decide +kernel
    have hchecked := m.checkedAt_probeStatus env { readings := 1 }
    have hfree :
        (t.unexpired (late.ago config.retention.maxAge)).freeId? (fun _ => 0) = some 8 := by
      rw [hfresh]
      decide
    have hplace (payload : String) : (t.unexpired (late.ago config.retention.maxAge)).place
        ⟨8, .text "status", .text payload, stampCell early⟩ =
          ⟨[odd, ⟨8, .text "status", .text payload, stampCell early⟩]⟩ := by
      rw [hfresh]
      rfl
    have hadded := hkept.added 8 hfree
    rw [show (Snapshot.status (m.probeStatus env { readings := 1 }).1.1).takenAt = early from
      hchecked] at hadded
    exact ⟨_, hadded.table_of_eq (hplace _)⟩
  · obtain ⟨-, -, hleft⟩ := ((commands_leave host disk _ env {}).2 _ hprune).2 config hconfig
    obtain ⟨hexit, hleaves, -⟩ := hleft t hopen
    have hfresh : t.unexpired (early.ago (hoursSpan 1)) = ⟨t.rows.drop 1⟩ := by decide +kernel
    have hout : prunedText (t.expired (early.ago (hoursSpan 1))).length (hoursSpan 1) =
        "Removed 1 record(s) older than 1h.\n" := by decide +kernel
    refine ⟨hexit.trans (congrArg (Exit.mk 0 · "") hout), ?_⟩
    exact hleaves.table_of_eq hfresh

/-- A row of the year 1900 is not older than as many hours as a word holds, counted back from the
year 2024, but they remove it, while two hundred years of hours keep it. -/
theorem prune_cuts_epoch :
    let made : Instant := { day := -25567, second := 0, nano := 0 }
    let now : Instant := { day := 19723, second := 43200, nano := 0 }
    let t : Table := ⟨[⟨1, .text "status", .text "\x7b", stampCell made⟩]⟩
    let disk : Disk := { entries := [(["data", "tunnelmon.db"], .database ⟨some t⟩)] }
    let env : Environment := { network := .unreachable, clock := fun _ => now }
    let long : UInt64 := 18446744073709551615
    made.PlainYear ∧ now.Reading ∧ ¬ made.CutBefore (now.hoursBefore long) ∧
      (runPrune {} disk (some long) env {}).1.1.exit =
        { code := 0, out := "Removed 1 record(s) older than 5124095576030431h.\n" } ∧
      (runPrune {} disk (some long) env {}).1.2.find? ({} : Config).server.dbPath =
        some (.database ⟨some {}⟩) ∧
      (runPrune {} disk (some 1752000) env {}).1.2.find? ({} : Config).server.dbPath =
        some (.database ⟨some t⟩) := by
  intro made now t disk env long
  have hopen : disk.openDatabase ({} : Config).server.dbPath = .ok ⟨some t⟩ :=
    eq_ok_of_toOption (by decide +kernel)
  have hgone : t.unexpired (now.ago (hoursSpan long)) = {} := by decide +kernel
  have hkept : t.unexpired (now.ago (hoursSpan 1752000)) = t := by decide +kernel
  have hout : prunedText (t.expired (now.ago (hoursSpan long))).length (hoursSpan long) =
      "Removed 1 record(s) older than 5124095576030431h.\n" := by decide +kernel
  refine ⟨by decide, ⟨by decide, by decide⟩, by decide +kernel,
    (prune_left (some long) hopen).1.trans (congrArg (Exit.mk 0 · "") hout), ?_, ?_⟩
  · exact (prune_left (some long) hopen).2.table_of_eq hgone
  · exact (prune_left (some 1752000) hopen).2.table_of_eq hkept

end Command

end EgressWatch
