import EgressWatch.Api.Endpoint
import EgressWatch.Api.Request
import EgressWatch.Monitor
import EgressWatch.Store.Database

/-!
# The API

The service answers requests from a monitor and a database. Answering goes in three layers, from the
outside to the inside:

* `Service.answer` sends what was made; an answer to `HEAD` leaves without its body.
* `Service.count` counts the body of the request before it is handled, and the body of the answer
  that was made for it afterwards. A body that is too long is refused before it is counted, and then
  nothing else happens.
* `Service.dispatch` finds the endpoint for a path and a method, and `Service.serve` is the handlers
  of the endpoints. What has no handler is answered as well: there is nothing at the path, or it is
  not asked for in this way.

The handlers that probe keep what they find (`Service.keep`) and show it. The database is welcome
but not needed for that: what cannot be saved is shown all the same, and history that cannot be read
is empty. The clock is read for each of the two lists that history shows.
-/

namespace EgressWatch.Api

open Net Time

/-- What is served. -/
structure Service where
  monitor : Monitor
  database : Store.Database
  upstream : UpstreamConfig

/-- An answer. -/
structure Answer where
  status : Nat
  contentType : Option String := none
  allow : Option String := none
  body : String := ""
  deriving DecidableEq, Repr

namespace Answer

/-- An answer in JSON. -/
def json (v : Json) : Answer :=
  { status := 200, contentType := some "application/json", body := v.compact }

/-- An answer in plain text. -/
def text (status : Nat) (body : String) : Answer :=
  { status, contentType := some "text/plain; charset=utf-8", body }

/-- There is nothing at a path. -/
def notFound : Answer := text 404 "not found"

/-- An endpoint is not asked for with this method. -/
def wrongMethod (e : Endpoint) : Answer := { status := 405, allow := some e.allow }

/-- The body of a request is too long. -/
def tooLong : Answer := { status := 413 }

/-- The bytes of the body. -/
def length (a : Answer) : Nat := a.body.utf8ByteSize

end Answer

/-- The most bytes that the body of a request may have. -/
def maxBody : Nat := 1048576

/-! ## History -/

/-- The window of history that is shown when none is asked for. -/
def defaultWindow : Span := .ofHours 24

/-- Why a query makes no sense: it gives a name two values. -/
structure QueryFault where
  name : String
  deriving DecidableEq, Repr

namespace QueryFault

/-- The fault in words. -/
def message (f : QueryFault) : String :=
  "Failed to deserialize query string: duplicate field \x60" ++ f.name ++ "\x60"

end QueryFault

/-- The name of the window in a query. -/
def rangeName : String := "range"

/-- The window that the values in a query ask for: one that cannot be read is none, but there may be
only one. -/
def queryWindow (values : List String) : Except QueryFault Span :=
  match values with
  | [] => .ok defaultWindow
  | [s] => .ok ((window? s).getD defaultWindow)
  | _ :: _ :: _ => .error ⟨rangeName⟩

/-- Statuses and speed tests as JSON, keys in order. -/
def historyJson (statuses : List Status) (speedTests : List SpeedTest) : Json :=
  (Json.object [("statuses", .list (statuses.map Status.toJson)),
    ("speed_tests", .list (speedTests.map SpeedTest.toJson))]).sorted

namespace Service

/-- Keeps a snapshot, if the database takes it. -/
def keep (s : Service) (draws : Store.Draws) (snapshot : Snapshot) : Service :=
  { s with database := s.database.keep draws snapshot }

/-- The token of everybody. -/
def token (s : Service) : Option String := s.upstream.tokenFor UpstreamConfig.anyone

/-- What was found in a window, as of two readings of the clock. -/
def historyAnswer (s : Service) (first second : Instant) (window : Span) : Answer :=
  .json <| historyJson ((s.database.recentStatuses first window).toOption.getD [])
    ((s.database.recentSpeedTests second window).toOption.getD [])

/-- What was found last. -/
def cachedAnswer (s : Service) : Answer :=
  .json (Json.object [("status", .optional Status.toJson s.monitor.lastStatus),
    ("speed_test", .optional SpeedTest.toJson s.monitor.lastSpeedTest)]).sorted

/-- That the program is there, at an instant and at an address. -/
def pingAnswer (now : Instant) (machineIp : String) : Answer :=
  .json (Json.object [("pong", .flag true), ("timestamp", .whole now.epochMillis),
    ("server_ip", .text machineIp)]).sorted

/-- Answers a request to an endpoint. -/
def serve (s : Service) (e : Endpoint) (r : Request) : Action (Answer × Service) := do
  match e with
  | .current =>
    let (status, monitor) ← s.monitor.probeStatus
    let draws ← readDraws
    return (.json status.toJson, { s with monitor }.keep draws (.status status))
  | .cached => return (s.cachedAnswer, s)
  | .speedTest =>
    let (test, monitor) ← s.monitor.probeSpeedTest s.token
    let draws ← readDraws
    return (.json test.toJson, { s with monitor }.keep draws (.speedTest test))
  | .history =>
    match queryWindow (r.values rangeName) with
    | .error fault => return (.text 400 fault.message, s)
    | .ok window =>
      let first ← readClock
      let second ← readClock
      return (s.historyAnswer first second window, s)
  | .bandwidth => return (.json s.monitor.bandwidth.toJson, s)
  | .ping =>
    let now ← readClock
    let (ip, monitor) ← s.monitor.machineIp
    return (pingAnswer now ip, { s with monitor })

/-- Answers a request wherever it goes. -/
def dispatch (s : Service) (r : Request) : Action (Answer × Service) :=
  match Endpoint.ofPath? r.path with
  | none => return (.notFound, s)
  | some e => if e.accepts r.method then s.serve e r else return (.wrongMethod e, s)

/-- The methods to tell for a request that uses another. -/
def allowFor (r : Request) : Option String :=
  match Endpoint.ofPath? r.path with
  | none => none
  | some e => if e.accepts r.method then none else some e.allow

/-- Answers a request and counts the bytes. -/
def count (s : Service) (r : Request) : Action (Answer × Service) := do
  if maxBody < r.bodyLength then return ({ Answer.tooLong with allow := allowFor r }, s)
  else
    let monitor := s.monitor.addInbound (UInt64.ofNat r.bodyLength)
    let (answer, s) ← { s with monitor }.dispatch r
    let monitor := s.monitor.addOutbound (UInt64.ofNat answer.length)
    return (answer, { s with monitor })

/-- The answer that is sent: to `HEAD` without its body. -/
def sent (r : Request) (a : Answer) : Answer :=
  if r.method == "HEAD" then { a with body := "" } else a

/-- Answers a request. -/
def answer (s : Service) (r : Request) : Action (Answer × Service) := do
  let (a, s) ← s.count r
  return (sent r a, s)

end Service

end EgressWatch.Api
