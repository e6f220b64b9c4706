import EgressWatch.Snapshot.Basic
import EgressWatch.Time.Window

/-!
# The table of snapshots

A table keeps snapshots as rows: a number, the tag of the kind, the text of the snapshot and the
stamp of the instant at which it was made, cut to the microsecond. Rows are selected
(`Table.select`) and pruned (`Table.pruneBefore`) by comparing stamps as text, which is the order of
time for the years 0 to 9999. A table may also hold rows that no snapshot makes: with other tags,
with damaged text, or with bytes where text belongs. Bytes come after all text. Such rows are not
shown, but they stay until they are pruned.

Numbers are signed words of 64 bits. A new row gets the one after the largest in use (`nextId`), so
that it goes to the end. If the largest is in use (`maxId`) no number comes after it, and numbers
are drawn at random until one is not in use; after so many draws the table counts as full
(`freeId?`). Which words are drawn is not up to the table, so `Table.save?` is told.

A listing takes the newest rows of a window first and reads them afterwards, passing over those that
hold no snapshot (`Table.list`, `Table.statusesSince`, `Table.speedTestsSince`).
-/

namespace EgressWatch.Store

open Time

/-- The content of a column. Text is well-formed: a column of text whose bytes are not UTF-8 cannot
be read as text and has no cell here. -/
inductive Cell where
  | text (s : String)
  | blob (bytes : List UInt8)
  deriving DecidableEq

namespace Cell

/-- One cell comes before another: texts by their characters, then bytes. -/
def before : Cell → Cell → Bool
  | text a, text b => decide (a < b)
  | text _, blob _ => true
  | blob _, text _ => false
  | blob a, blob b => decide (a < b)

/-- The text of a cell that holds text. -/
def text? : Cell → Option String
  | text s => some s
  | blob _ => none

end Cell

/-- One row. Its number is a signed word of 64 bits. -/
structure Row where
  id : Int
  kind : Cell
  payload : Cell
  created : Cell
  deriving DecidableEq

/-- All rows, in the order of their numbers. -/
structure Table where
  rows : List Row := []
  deriving DecidableEq

/-- A row of a known kind with a readable stamp. -/
structure Stored where
  id : Int
  kind : Snapshot.Kind
  payload : String
  createdAt : Instant
  deriving DecidableEq

namespace Stored

/-- The snapshot that a row holds. -/
def decode (s : Stored) : Except Json.Fault Snapshot := Snapshot.decode s.kind s.payload

end Stored

namespace Row

/-- The row as one of a known kind, if its columns can be read. -/
def read? (r : Row) : Option Stored := do
  let tag ← r.kind.text?
  let payload ← r.payload.text?
  let created ← r.created.text?
  let kind ← Snapshot.Kind.ofTag? tag
  let createdAt ← Instant.ofStamp? created.toList
  some ⟨r.id, kind, payload, createdAt⟩

/-- Newer rows go first, and of rows with one stamp those with the larger number. -/
def newer (a b : Row) : Bool :=
  b.created.before a.created || (a.created == b.created && decide (b.id ≤ a.id))

end Row

/-- The stamp of a column. -/
def stampCell (t : Instant) : Cell := .text (String.ofList t.microStamp)

/-- The row of a snapshot under a number. -/
def rowOf (e : Int × Snapshot) : Row :=
  ⟨e.1, .text e.2.kind.tag, .text e.2.encode, stampCell e.2.takenAt⟩

/-! ## Numbers -/

/-- The largest number that a row can have. -/
def maxId : Int := 9223372036854775807

/-- Words drawn at random, one after another. -/
abbrev Draws := Nat → UInt64

/-- The number that a drawn word stands for, one of the lower half of those above zero. -/
def drawnId (word : UInt64) : Int := word.toNat % 4611686018427387904 + 1

/-- How many words are drawn at most. -/
def maxDraws : Nat := 100

/-- How many statuses are shown at once. -/
def statusLimit : UInt64 := 100

/-- How many speed tests are shown at once. -/
def speedTestLimit : UInt64 := 50

/-- Cuts a list. A limit beyond the largest signed word is none. -/
def limited {α : Type} (limit : UInt64) (xs : List α) : List α :=
  if 9223372036854775807 < limit then xs else xs.take limit.toNat

namespace Table

/-- A row has this number. -/
def uses (t : Table) (id : Int) : Bool := t.rows.any (·.id == id)

/-- The number after the last row, be it too large or not. -/
def nextId (t : Table) : Int :=
  match t.rows.getLast? with
  | none => 1
  | some r => r.id + 1

/-- The first number drawn that is not in use. -/
def drawnFree? (t : Table) (draws : Draws) : Option Int :=
  ((List.range maxDraws).map fun i => drawnId (draws i)).find? fun id => !t.uses id

/-- The number for a new row, if there is one. -/
def freeId? (t : Table) (draws : Draws) : Option Int :=
  if t.nextId ≤ maxId then some t.nextId else t.drawnFree? draws

/-- Puts a row behind those with smaller numbers. -/
def place (t : Table) (r : Row) : Table :=
  ⟨t.rows.takeWhile (·.id < r.id) ++ r :: t.rows.dropWhile (·.id < r.id)⟩

/-- Puts a row in its place, unless its number is in use. -/
def insert? (t : Table) (r : Row) : Option Table :=
  if t.uses r.id then none else some (t.place r)

/-- Adds a snapshot and says its number, if there is one for it. -/
def save? (t : Table) (draws : Draws) (s : Snapshot) : Option (Int × Table) :=
  (t.freeId? draws).map fun id => (id, t.place (rowOf (id, s)))

/-- The rows with the tag of a kind and a stamp from `since` on, newest first, cut to the limit. -/
def select (t : Table) (kind : Snapshot.Kind) (since : Instant) (limit : UInt64) : List Row :=
  limited limit <|
    (t.rows.filter fun r =>
      r.kind == .text kind.tag && !r.created.before (stampCell since)).mergeSort Row.newer

/-- The selected rows that can be read. -/
def list (t : Table) (kind : Snapshot.Kind) (since : Instant) (limit : UInt64) : List Stored :=
  (t.select kind since limit).filterMap Row.read?

/-- The statuses from an instant on, newest first. Rows that hold none are passed over. -/
def statusesSince (t : Table) (since : Instant) : List Status :=
  (t.list .status since statusLimit).filterMap fun s => s.decode.toOption.bind Snapshot.status?

/-- The speed tests from an instant on, newest first. Rows that hold none are passed over. -/
def speedTestsSince (t : Table) (since : Instant) : List SpeedTest :=
  (t.list .speedTest since speedTestLimit).filterMap fun s =>
    s.decode.toOption.bind Snapshot.speedTest?

/-- The statuses of the last span of time. -/
def recentStatuses (t : Table) (now : Instant) (window : Span) : List Status :=
  t.statusesSince (now.ago window)

/-- The speed tests of the last span of time. -/
def recentSpeedTests (t : Table) (now : Instant) (window : Span) : List SpeedTest :=
  t.speedTestsSince (now.ago window)

/-- Removes all rows with a stamp before an instant and says how many there were. -/
def pruneBefore (t : Table) (bound : Instant) : Nat × Table :=
  let kept := t.rows.filter fun r => !r.created.before (stampCell bound)
  (t.rows.length - kept.length, ⟨kept⟩)

/-- Removes all rows older than a span of time and says how many there were. -/
def pruneOlderThan (t : Table) (now : Instant) (age : Span) : Nat × Table :=
  t.pruneBefore (now.ago age)

end Table

end EgressWatch.Store
