import EgressWatch.Store.Table

/-!
# The database

A database is made to hold the table of snapshots, but the table may be taken away behind the
program's back. Opening the database puts an empty table where there is none and keeps the one that
is there (`Database.opened`). Until then every query fails, and a failed query changes nothing: all
questions go through `Database.ask`, which has one fault to tell, and all changes are questions that
come with a new table.

A save fails as well where there is no number left for a row. What is to be kept if that can be done
is kept by `Database.keep`, which goes on without it where it cannot.

A daemon or a command finds the database as it is when it has been opened and what is too old has
been removed (`Database.openedAndPruned`).
-/

namespace EgressWatch.Store

open Time

/-- Why the store has no answer. -/
inductive Fault where
  /-- There is no table to ask, or it refuses a row, or it has no number left for one. -/
  | queryFailed
  /-- A row holds no snapshot of its kind. -/
  | undecodable (kind : Snapshot.Kind) (id : Int) (fault : Json.Fault)
  /-- There is no kind with this tag. -/
  | unknownKind (tag : String)
  deriving DecidableEq

namespace Fault

/-- The fault in words. -/
def message : Fault → String
  | queryFailed => "storage query failed"
  | undecodable kind id _ => "failed to decode " ++ kind.tag ++ " record " ++ toString id
  | unknownKind tag => "unknown metric type '" ++ tag ++ "'"

end Fault

/-- The kind with a tag, or the fault that there is none. -/
def kindOf (tag : String) : Except Fault Snapshot.Kind :=
  match Snapshot.Kind.ofTag? tag with
  | some kind => .ok kind
  | none => .error (.unknownKind tag)

/-- The snapshot that a row holds, or the fault that it holds none. -/
def Stored.snapshot (s : Stored) : Except Fault Snapshot :=
  s.decode.mapError (.undecodable s.kind s.id)

/-- A database, with its table if it has one. -/
structure Database where
  table : Option Table
  deriving DecidableEq

namespace Database

/-- A database as it is made. -/
def empty : Database := ⟨some {}⟩

/-- What a database is after it has been opened. -/
def opened (d : Database) : Database := ⟨some (d.table.getD {})⟩

/-- What a database is after its table has been taken away. -/
def withoutTable (_ : Database) : Database := ⟨none⟩

/-- Asks the table. -/
def ask {α : Type} (d : Database) (question : Table → α) : Except Fault α :=
  match d.table with
  | none => .error .queryFailed
  | some t => .ok (question t)

/-- Changes the table. -/
def change {α : Type} (d : Database) (update : Table → α × Table) : Except Fault (α × Database) :=
  (d.ask update).map fun (a, t) => (a, ⟨some t⟩)

/-- Adds a snapshot and says its number. -/
def save (d : Database) (draws : Draws) (s : Snapshot) : Except Fault (Int × Database) := do
  match ← d.ask (·.save? draws s) with
  | some (id, t) => .ok (id, ⟨some t⟩)
  | none => .error .queryFailed

/-- Adds a snapshot if that can be done, and goes on without it if not. -/
def keep (d : Database) (draws : Draws) (s : Snapshot) : Database :=
  match d.save draws s with
  | .ok (_, d) => d
  | .error _ => d

/-- Puts a row of any shape in its place. -/
def insert (d : Database) (r : Row) : Except Fault Database := do
  match ← d.ask (·.insert? r) with
  | some t => .ok ⟨some t⟩
  | none => .error .queryFailed

/-- The readable rows of a kind from an instant on, newest first. -/
def list (d : Database) (kind : Snapshot.Kind) (since : Instant) (limit : UInt64) :
    Except Fault (List Stored) := d.ask (·.list kind since limit)

/-- The statuses from an instant on, newest first. -/
def statusesSince (d : Database) (since : Instant) : Except Fault (List Status) :=
  d.ask (·.statusesSince since)

/-- The speed tests from an instant on, newest first. -/
def speedTestsSince (d : Database) (since : Instant) : Except Fault (List SpeedTest) :=
  d.ask (·.speedTestsSince since)

/-- The statuses of the last span of time. -/
def recentStatuses (d : Database) (now : Instant) (window : Span) : Except Fault (List Status) :=
  d.ask (·.recentStatuses now window)

/-- The speed tests of the last span of time. -/
def recentSpeedTests (d : Database) (now : Instant) (window : Span) :
    Except Fault (List SpeedTest) := d.ask (·.recentSpeedTests now window)

/-- Removes the rows from before an instant and says how many there were. -/
def pruneBefore (d : Database) (bound : Instant) : Except Fault (Nat × Database) :=
  d.change (·.pruneBefore bound)

/-- Removes the rows older than a span of time and says how many there were. -/
def pruneOlderThan (d : Database) (now : Instant) (age : Span) : Except Fault (Nat × Database) :=
  d.change (·.pruneOlderThan now age)

/-- What a database is after it has been opened and what is older than `age` has been removed. -/
def openedAndPruned (d : Database) (now : Instant) (age : Span) : Database :=
  match d.opened.pruneOlderThan now age with
  | .ok (_, d) => d
  | .error _ => d.opened

@[simp] theorem ask_some {α : Type} (t : Table) (question : Table → α) :
    ask ⟨some t⟩ question = .ok (question t) := rfl

@[simp] theorem opened_some (t : Table) : opened ⟨some t⟩ = ⟨some t⟩ := rfl

/-- Opening a database that is open already makes no difference. -/
@[simp] theorem opened_opened (d : Database) : d.opened.opened = d.opened := rfl

/-- Once opened, a database prunes without fail. -/
theorem openedAndPruned_eq (d : Database) (now : Instant) (age : Span) :
    d.openedAndPruned now age = ⟨some ((d.table.getD {}).pruneOlderThan now age).2⟩ := rfl

end Database

end EgressWatch.Store
