import EgressWatch.Snapshot.Kind
import EgressWatch.Snapshot.SpeedTest

/-!
# Snapshots

A snapshot is a status or a speed test. It is kept as text (`Snapshot.encode`) under the tag of its
kind, with the instant at which it was made (`Snapshot.takenAt`), and read back by that tag
(`Snapshot.decode`): the same text means different things under different tags.

All that the table needs to know about snapshots is said here, so that it does not ask which of the
two it holds.
-/

namespace EgressWatch

/-- What is kept for later. -/
inductive Snapshot where
  | status (s : Status)
  | speedTest (t : SpeedTest)

namespace Snapshot

/-- The kind of a snapshot. -/
def kind : Snapshot → Kind
  | status _ => .status
  | speedTest _ => .speedTest

/-- The instant at which a snapshot was made. -/
def takenAt : Snapshot → Time.Instant
  | status s => s.checkedAt
  | speedTest t => t.testedAt

/-- A snapshot as a JSON object. -/
def toJson : Snapshot → Json
  | status s => s.toJson
  | speedTest t => t.toJson

/-- A snapshot as text. -/
def encode (s : Snapshot) : String := s.toJson.compact

/-- Reads a snapshot of a kind. -/
def decode (kind : Kind) (text : String) : Except Json.Fault Snapshot :=
  match kind with
  | .status => (Status.decode text).map status
  | .speedTest => (SpeedTest.decode text).map speedTest

/-- The status that a snapshot is, if it is one. -/
def status? : Snapshot → Option Status
  | status s => some s
  | speedTest _ => none

/-- The speed test that a snapshot is, if it is one. -/
def speedTest? : Snapshot → Option SpeedTest
  | status _ => none
  | speedTest t => some t

end Snapshot

end EgressWatch
