import EgressWatch.Command.Line
import EgressWatch.Daemon

/-!
# Running a command

What a command does: it reads the configuration (`Invocation.run`), then does its task under it
(`Task.run`): it asks the network, changes the disk and prints something, or fails. A command that
serves goes on for as long as it is let.

Each task has its own order. A probe is made before the database is opened, and only if what it
finds is to be kept (`finishProbe`). A range of history that cannot be read is told before anything
is opened, and opening removes what is too old (`openStore`). Removing by hand opens the database
without that, as it goes by the hours that are given.

`runLine` is the whole of it, from arguments to what a process leaves behind (`Exit`): a code, what
was printed, and what was said about a failure, without paint where none is wanted.
-/

namespace EgressWatch.Command

open Net Store Time
open Text (paint)

/-- What the program meets with when it is run. -/
structure Host where
  /-- The path of the configuration in the environment. -/
  configVariable : Option String
  /-- What the program says about its command line is painted. -/
  wantsPaint : Bool := false
  /-- Why an address cannot be listened at, if it cannot. -/
  refusal : Socket → Option String

/-- How a command ends. -/
inductive Outcome where
  | printed (text : String)
  | failed (failure : Failure)
  /-- It serves. -/
  | serving (service : Api.Service)

/-- A snapshot as it is printed. -/
def snapshotText (s : Snapshot) : String := s.toJson.pretty ++ "\n"

/-- Keeps a snapshot if it is to be kept, then prints it. -/
def finishProbe (config : Config) (disk : Disk) (save : Bool) (s : Snapshot) :
    Action (Outcome × Disk) := do
  if save then
    match ← openStore config disk with
    | .error failure => return (.failed failure, disk)
    | .ok (database, disk) =>
      let draws ← readDraws
      return (.printed (snapshotText s), disk.keep config.server.dbPath (database.keep draws s))
  else return (.printed (snapshotText s), disk)

/-- Checks the status. -/
def runStatus (config : Config) (disk : Disk) (save : Bool) : Action (Outcome × Disk) := do
  match ← makeMonitor config with
  | .error failure => return (.failed failure, disk)
  | .ok monitor =>
    let (status, _) ← monitor.probeStatus
    finishProbe config disk save (.status status)

/-- The token to use: the one given, be it empty, or that of everybody. -/
def effectiveToken (config : Config) (given : Option String) : Option String :=
  given.or (config.upstream.tokenFor UpstreamConfig.anyone)

/-- Tests the speed. -/
def runSpeedTest (config : Config) (disk : Disk) (token : Option String) (save : Bool) :
    Action (Outcome × Disk) := do
  match ← makeMonitor config with
  | .error failure => return (.failed failure, disk)
  | .ok monitor =>
    let (test, _) ← monitor.probeSpeedTest (effectiveToken config token)
    finishProbe config disk save (.speedTest test)

/-- Prints history. -/
def runHistory (config : Config) (disk : Disk) (range : String) : Action (Outcome × Disk) := do
  match window? range with
  | none => return (.failed (.window range), disk)
  | some window =>
    match ← openStore config disk with
    | .error failure => return (.failed failure, disk)
    | .ok (database, disk) =>
      let first ← readClock
      match database.recentStatuses first window with
      | .error fault => return (.failed (.store fault), disk)
      | .ok statuses =>
        let second ← readClock
        match database.recentSpeedTests second window with
        | .error fault => return (.failed (.store fault), disk)
        | .ok tests => return (.printed ((Api.historyJson statuses tests).pretty ++ "\n"), disk)

/-- What is printed after rows have been removed. -/
def prunedText (removed : Nat) (age : Span) : String :=
  "Removed " ++ toString removed ++ " record(s) older than " ++ toString (age.seconds / 3600) ++
    "h.\n"

/-- Removes what is older than so many hours, or too old. -/
def runPrune (config : Config) (disk : Disk) (hours : Option UInt64) :
    Action (Outcome × Disk) := do
  let age := (hours.map hoursSpan).getD config.retention.maxAge
  match disk.openDatabase config.server.dbPath with
  | .error fault => return (.failed (.disk fault), disk)
  | .ok database =>
    let now ← readClock
    match database.pruneOlderThan now age with
    | .error fault => return (.failed (.store fault), disk.keep config.server.dbPath database)
    | .ok (removed, database) =>
      return (.printed (prunedText removed age), disk.keep config.server.dbPath database)

/-- Serves, at another address if one is given. -/
def runServe (host : Host) (config : Config) (disk : Disk) (bind : Option String) :
    Action (Outcome × Disk) := do
  let server := { config.server with bind := bind.getD config.server.bind }
  match ← startService host.refusal { config with server } disk with
  | (.error failure, disk) => return (.failed failure, disk)
  | (.ok service, disk) => return (.serving service, disk)

/-- Does a task under a configuration. -/
def Task.run (host : Host) (config : Config) (disk : Disk) : Task → Action (Outcome × Disk)
  | serve bind => runServe host config disk bind
  | status save => runStatus config disk save
  | speedTest token save => runSpeedTest config disk token save
  | history range => runHistory config disk range
  | prune hours => runPrune config disk hours

/-- Reads the configuration, then does what is to be done. -/
def Invocation.run (host : Host) (disk : Disk) (i : Invocation) : Action (Outcome × Disk) := do
  match Config.resolve disk i.config host.configVariable with
  | .error fault => return (.failed (.config fault), disk)
  | .ok config => i.task.run host config disk

/-! ## The process -/

/-- What a process leaves behind. -/
structure Exit where
  code : UInt32
  out : String := ""
  err : String := ""
  deriving DecidableEq, Repr

/-- A fault of the command line with what to do about it, in paint. -/
def LineFault.report (f : LineFault) : String :=
  paint .alarm "error:" ++ " " ++ f.message ++ "\n\nFor more information, try '" ++
    paint .literal "--help" ++ "'.\n"

/-- What is left behind when the command line stops the program. Where no paint is wanted, nothing
is left that a terminal would obey, be it from the command line. -/
def Stop.exit (wantsPaint : Bool) (stop : Stop) : Exit :=
  let shown (s : String) : String := if wantsPaint then s else Text.Terminal.kept s
  match stop with
  | .fault f => { code := 2, err := shown f.report }
  | .help text => { code := 0, out := shown text }
  | .version => { code := 0, out := shown versionText }
  | .nothing => { code := 2, err := shown programHelp }

/-- What is left behind when a command has ended. -/
def Outcome.exit : Outcome → Exit
  | .printed text => { code := 0, out := text }
  | .failed failure => { code := 1, err := "Error: " ++ failure.message ++ "\n" }
  | .serving _ => { code := 0 }

/-- Runs the program. -/
def runLine (host : Host) (disk : Disk) (arguments : List String) : Action (Exit × Disk) := do
  match readLine arguments with
  | .error stop => return (stop.exit host.wantsPaint, disk)
  | .ok i =>
    let (outcome, disk) ← i.run host disk
    return (outcome.exit, disk)

end EgressWatch.Command
