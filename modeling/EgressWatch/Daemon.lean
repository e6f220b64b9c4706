import EgressWatch.Api.Service
import EgressWatch.Config.Read
import EgressWatch.Net.Address

/-!
# Starting the service

To serve, the program goes through these steps, and the first that fails ends it (`Failure`):

* `openStore` opens the database and removes what is older than the retention. The clock is read
  once for that, and only if the database can be opened.
* `makeMonitor` makes the monitor, for which the address of the proxy has to be one.
* `listen` reads the address to listen at, and listens. Whether an address can be listened at is not
  for the program to decide, so it is told what is refused.

`startService` has them in this order. A service that fails to start has pruned the database all the
same if it got so far, and that is what it leaves on the disk.

Other commands make the first two steps as well, as far as they need them and in an order of their
own.
-/

namespace EgressWatch

open Net Store Time

/-- Why the program failed. -/
inductive Failure where
  | config (fault : Config.Fault)
  | disk (fault : OpenFault)
  | proxy (fault : ProxyFault)
  | store (fault : Store.Fault)
  /-- A window that cannot be read. -/
  | window (text : String)
  /-- An address to listen at that cannot be read. -/
  | malformedSocket
  /-- An address that cannot be listened at, and why. -/
  | socket (reason : String)
  deriving DecidableEq

namespace Failure

/-- The failure in words. -/
def message : Failure → String
  | config fault => fault.message
  | disk fault => fault.message
  | proxy fault => fault.message
  | store fault => fault.message
  | window text => "Invalid range '" ++ text ++ "', expected e.g. 24h or 7d"
  | malformedSocket => "invalid socket address syntax"
  | socket reason => reason

end Failure

/-- Opens the database of a configuration and removes what is too old. -/
def openStore (config : Config) (disk : Disk) : Action (Except Failure (Database × Disk)) := do
  match disk.openDatabase config.server.dbPath with
  | .error fault => return .error (.disk fault)
  | .ok database =>
    let now ← readClock
    let database := database.openedAndPruned now config.retention.maxAge
    return .ok (database, disk.keep config.server.dbPath database)

/-- Makes the monitor of a configuration. -/
def makeMonitor (config : Config) : Action (Except Failure Monitor) := do
  let now ← readClock
  return (Monitor.ofConfig config now).mapError .proxy

/-- Reads an address and listens at it, unless there is a reason why it cannot be listened at. -/
def listen (refusal : Socket → Option String) (address : String) : Except Failure Socket :=
  match Socket.read? address with
  | none => .error .malformedSocket
  | some socket =>
    match refusal socket with
    | some reason => .error (.socket reason)
    | none => .ok socket

/-- Starts to serve: what is served in the end, or why it is not, and what is left on the disk. -/
def startService (refusal : Socket → Option String) (config : Config) (disk : Disk) :
    Action (Except Failure Api.Service × Disk) := do
  match ← openStore config disk with
  | .error failure => return (.error failure, disk)
  | .ok (database, disk) =>
    match ← makeMonitor config with
    | .error failure => return (.error failure, disk)
    | .ok monitor =>
      match listen refusal config.server.bind with
      | .error failure => return (.error failure, disk)
      | .ok _ => return (.ok { monitor, database, upstream := config.upstream }, disk)

end EgressWatch
