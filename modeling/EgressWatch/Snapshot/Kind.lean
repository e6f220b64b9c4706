/-!
# Kinds of snapshots

Two kinds of snapshots are kept, each under a tag of its own.
-/

namespace EgressWatch.Snapshot

/-- What a snapshot tells about. -/
inductive Kind where
  | status
  | speedTest
  deriving DecidableEq, Repr

namespace Kind

/-- The tag under which snapshots of a kind are kept. -/
def tag : Kind → String
  | status => "status"
  | speedTest => "speedtest"

/-- The kind with a tag. -/
def ofTag? (s : String) : Option Kind :=
  if s = "status" then some status else if s = "speedtest" then some speedTest else none

@[simp] theorem ofTag?_tag (k : Kind) : ofTag? k.tag = some k := by cases k <;> decide

/-- A tag belongs to one kind. -/
theorem tag_inj {j k : Kind} (h : j.tag = k.tag) : j = k := by
  have := congrArg ofTag? h
  simpa using this

end Kind

end EgressWatch.Snapshot
