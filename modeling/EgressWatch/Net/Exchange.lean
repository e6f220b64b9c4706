import EgressWatch.Net.Url
import EgressWatch.Time.Instant

/-!
# Requests and replies

What passes between the program and the network. A request goes out directly or through the tunnel
(`Route`). What comes back is a `Response`, in parts that take their time, or nothing. How a network
behaves is a function of all requests made so far, the last one first, so that it may answer the
same request differently each time.

An `Action` is something that is done outside: it may send requests (`exchange`), read the clock
(`readClock`) and draw words at random (`readDraws`). It depends on how network, clock and chance
behave, which is an `Environment`, and it leaves a `Trail` of what was done: the requests that were
sent and how often the clock was read. Readings are numbered, and what the clock shows at each of
them is up to the environment; so is what is drawn after each trail.
-/

namespace EgressWatch.Net

open Time

/-- The two ways out. -/
inductive Route where
  | direct
  | tunnel
  deriving DecidableEq, Repr

/-- A request for a document. -/
structure Request where
  route : Route
  url : Url
  /-- The credentials that go with it. -/
  authorization : List String := []
  /-- How many redirects led here. -/
  hops : Nat := 0
  deriving DecidableEq

/-- A part of a body, and how long it takes to arrive after what comes before it. -/
structure Chunk where
  wait : Span
  bytes : List UInt8
  deriving DecidableEq

/-- A response. -/
structure Response where
  /-- How long it takes until the headers have arrived. -/
  wait : Span
  status : Nat
  /-- The phrase that was sent along with the status. -/
  phrase : String
  headers : List (String × String) := []
  chunks : List Chunk := []
  /-- The body ends as announced, and is not cut short. -/
  complete : Bool := true
  deriving DecidableEq

/-- What comes back for a request. -/
inductive Reply where
  /-- The connection cannot be made, or it ends before the headers have arrived. -/
  | lost (wait : Span)
  | response (r : Response)
  deriving DecidableEq

/-- How the network replies to the first of the requests listed, those before it following in
reverse order. -/
abbrev Network := List Request → Reply

/-- What has been done so far. -/
structure Trail where
  /-- The requests that were sent, the last one first. -/
  requests : List Request := []
  /-- How often the clock was read. -/
  readings : Nat := 0

/-- What the program cannot decide: how the network behaves, what the clock shows when it is read
for the first time, the second time and so on, and which words are drawn at random after what has
been done so far. -/
structure Environment where
  network : Network
  clock : Nat → Instant
  draws : Trail → Nat → UInt64 := fun _ _ => 0

/-- Something that is done outside. -/
abbrev Action := ReaderT Environment (StateM Trail)

/-- Sends a request. -/
def exchange (r : Request) : Action Reply := fun env trail =>
  (env.network (r :: trail.requests), { trail with requests := r :: trail.requests })

/-- Reads the clock. -/
def readClock : Action Instant := fun env trail =>
  (env.clock trail.readings, { trail with readings := trail.readings + 1 })

/-- Draws words at random, as many as are looked at. -/
def readDraws : Action (Nat → UInt64) := fun env trail => (env.draws trail, trail)

/-- A network that nothing comes back from. -/
def Network.unreachable : Network := fun _ => .lost 0

namespace Response

/-- The value of a header, whatever the case of its name. -/
def header? (r : Response) (name : String) : Option String :=
  (r.headers.find? fun h => h.1.toLower == name).map (·.2)

end Response

end EgressWatch.Net
