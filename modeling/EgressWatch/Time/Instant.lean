import EgressWatch.Time.Calendar
import EgressWatch.Time.Span

/-!
# Instants

A point in time: a day of the calendar, a second of that day and a fraction of that second in
nanoseconds. A leap second is held in the last second of a minute, as a fraction of one second or
more. An `Instant` carries the proof that its parts are in range, so that every instant has a date
and can be written. Instants are ordered day first, then second, then fraction (`Instant.key`).

`Instant.ago` goes back by a span of time. There are two ways for that to fail: the span may be
longer than a shift in time can be (`longestShift`), or lead out of the calendar
(`Instant.before?`). In either case the answer is the epoch, be it before or after the instants that
can be reached.
-/

namespace EgressWatch.Time

/-- The nanoseconds of a second. -/
def nanosPerSecond : Nat := 1000000000

/-- A point in time within the calendar. -/
structure Instant where
  /-- The day, from the first of January 1970. -/
  day : Int
  /-- The second of the day. -/
  second : Nat
  /-- The fraction of the second in nanoseconds, one second or more in a leap second. -/
  nano : Nat
  first_le_day : Date.dayNumber ⟨Date.firstYear, 1, 1⟩ ≤ day := by decide
  day_le_last : day ≤ Date.dayNumber ⟨Date.lastYear, 12, 31⟩ := by decide
  second_lt : second < 86400 := by decide
  nano_lt : nano < nanosPerSecond ∨ (nano < 2 * nanosPerSecond ∧ second % 60 = 59) := by decide
  deriving DecidableEq

namespace Instant

/-- The first instant of January 1970. -/
def epoch : Instant := { day := 0, second := 0, nano := 0 }

/-- The instant with these parts, if the calendar has it. -/
def ofParts? (day : Int) (second nano : Nat) : Option Instant :=
  if h : (Date.dayNumber ⟨Date.firstYear, 1, 1⟩ ≤ day ∧
      day ≤ Date.dayNumber ⟨Date.lastYear, 12, 31⟩) ∧ second < 86400 ∧
      (nano < nanosPerSecond ∨ (nano < 2 * nanosPerSecond ∧ second % 60 = 59)) then
    some ⟨day, second, nano, h.1.1, h.1.2, h.2.1, h.2.2⟩
  else none

/-- The seconds since the epoch, a leap second counting with the second that holds it. -/
def epochSeconds (t : Instant) : Int := t.day * 86400 + t.second

/-- The nanoseconds since the epoch. -/
def epochNanos (t : Instant) : Int := t.epochSeconds * 1000000000 + t.nano

/-- The whole milliseconds since the epoch. -/
def epochMillis (t : Instant) : Int := t.epochNanos / 1000000

/-- The instant so many seconds after the epoch, plus a fraction, if the calendar has it. -/
def ofEpoch? (seconds : Int) (nano : Nat) : Option Instant :=
  ofParts? (seconds / 86400) (seconds % 86400).toNat nano

/-- The instant so many nanoseconds after the epoch, if the calendar has it. -/
def ofEpochNanos? (n : Int) : Option Instant :=
  ofEpoch? (n / 1000000000) (n % 1000000000).toNat

/-- The date of an instant. -/
def date (t : Instant) : Date := Date.ofDayNumber t.day

/-- The instant a span earlier, if the calendar reaches back so far. -/
def before? (t : Instant) (s : Span) : Option Instant :=
  ofEpochNanos? (t.epochNanos - s.nanoseconds)

/-- The longest span that instants are shifted by: as many milliseconds as a signed 64-bit word
holds. -/
def longestShift : Span := ⟨9223372036854775807 * 1000000⟩

/-- The instant a span ago. Where the span is too long to shift by or leads out of the calendar,
it is the epoch. -/
def ago (now : Instant) (s : Span) : Instant :=
  if s.nanoseconds ≤ longestShift.nanoseconds then (now.before? s).getD epoch else epoch

/-- The parts of an instant in order of weight. -/
def key (t : Instant) : Int × Nat × Nat := (t.day, t.second, t.nano)

instance : LT Instant where
  lt a b := a.day < b.day ∨ (a.day = b.day ∧
    (a.second < b.second ∨ (a.second = b.second ∧ a.nano < b.nano)))

instance (a b : Instant) : Decidable (a < b) := by
  show Decidable (_ ∨ _); infer_instance

/-- The parts of an instant make it up again. -/
@[simp] theorem ofParts?_parts (t : Instant) : ofParts? t.day t.second t.nano = some t := by
  unfold ofParts?
  rw [dif_pos ⟨⟨t.first_le_day, t.day_le_last⟩, t.second_lt, t.nano_lt⟩]

end Instant

end EgressWatch.Time
