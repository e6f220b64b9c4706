/-!
# Endpoints of the API

The places of the API by their paths (`Endpoint.path`). A path has to be written exactly so, percent
signs and all, or it is no place (`Endpoint.ofPath?`).

Every endpoint is asked for with `GET`, or `HEAD` for the headers alone, except that a speed test,
which takes its time and moves data, wants a `POST` (`Endpoint.methods`). What else it is asked for
with is not accepted, and the answer says with what it would have been (`Endpoint.allow`).
-/

namespace EgressWatch.Api

/-- A place of the API. -/
inductive Endpoint where
  /-- Checks the status. -/
  | current
  /-- Shows what was found last. -/
  | cached
  /-- Tests the speed. -/
  | speedTest
  /-- Shows what was found in a window of time. -/
  | history
  /-- Shows the byte counters. -/
  | bandwidth
  /-- Shows that the program is there. -/
  | ping
  deriving DecidableEq, Repr

namespace Endpoint

/-- The path of an endpoint. -/
def path : Endpoint → String
  | current => "/status/api/current"
  | cached => "/status/api/cached"
  | speedTest => "/status/api/speedtest"
  | history => "/status/api/history"
  | bandwidth => "/status/api/bandwidth"
  | ping => "/status/api/ping"

/-- All endpoints. -/
def all : List Endpoint := [current, cached, speedTest, history, bandwidth, ping]

/-- The endpoint with a path. -/
def ofPath? (path : String) : Option Endpoint := all.find? fun e => e.path == path

/-- The methods that an endpoint is asked for with. -/
def methods : Endpoint → List String
  | speedTest => ["POST"]
  | _ => ["GET", "HEAD"]

/-- A method that an endpoint is asked for with. -/
def accepts (e : Endpoint) (method : String) : Bool := e.methods.contains method

/-- The methods of an endpoint as they are told to those who use another. -/
def allow (e : Endpoint) : String := ",".intercalate e.methods

/-- Every endpoint is found under its path. -/
@[simp] theorem ofPath?_path (e : Endpoint) : ofPath? e.path = some e := by
  cases e <;> decide

end Endpoint

end EgressWatch.Api
