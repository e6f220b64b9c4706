/-!
# Spans of time

A length of time in whole nanoseconds, with no upper bound: windows, ages and timeouts.
-/

namespace EgressWatch.Time

/-- A length of time. -/
structure Span where
  nanoseconds : Nat
  deriving DecidableEq, Repr

namespace Span

/-- So many whole seconds. -/
def ofSeconds (n : Nat) : Span := ⟨n * 1000000000⟩

/-- So many whole hours. -/
def ofHours (n : Nat) : Span := ofSeconds (n * 3600)

/-- The whole seconds in a span. -/
def seconds (s : Span) : Nat := s.nanoseconds / 1000000000

/-- The whole milliseconds in a span. -/
def milliseconds (s : Span) : Nat := s.nanoseconds / 1000000

/-- The nanoseconds past the last whole second. -/
def subsecond (s : Span) : Nat := s.nanoseconds % 1000000000

instance : LE Span := ⟨fun a b => a.nanoseconds ≤ b.nanoseconds⟩

instance (a b : Span) : Decidable (a ≤ b) :=
  inferInstanceAs (Decidable (a.nanoseconds ≤ b.nanoseconds))

instance : Add Span := ⟨fun a b => ⟨a.nanoseconds + b.nanoseconds⟩⟩

/-- What is left of one span after another; nothing if that is longer. -/
instance : Sub Span := ⟨fun a b => ⟨a.nanoseconds - b.nanoseconds⟩⟩

instance : Zero Span := ⟨⟨0⟩⟩

@[simp] theorem seconds_ofSeconds (n : Nat) : (ofSeconds n).seconds = n := by
  simp [seconds, ofSeconds]

@[simp] theorem seconds_ofHours (n : Nat) : (ofHours n).seconds = n * 3600 := by
  simp [ofHours]

end Span

end EgressWatch.Time
