/-!
# Faults of JSON text

A reader stops at the first thing that is wrong. Three causes are told apart, for they call for
different remedies: a text that is no JSON, a text that is JSON as far as it was read but not of
the wanted shape, and a text that ends too early.
-/

namespace EgressWatch.Json

/-- Why a text was not taken. -/
inductive Fault where
  /-- The text is not JSON at the place that was reached, or a number is out of range. -/
  | malformed
  /-- The text is JSON so far, but a value has the wrong type or content, a member is missing,
  or one is there twice. -/
  | mismatched
  /-- The text ends in the middle of a value. -/
  | truncated
  deriving DecidableEq, Repr

/-- The four characters that may stand between the parts of a text. -/
def isSpace (c : Char) : Bool := c == ' ' || c == '\n' || c == '\t' || c == '\r'

/-- Skips the space in front. -/
def skipSpace (cs : List Char) : List Char := cs.dropWhile isSpace

/-- Takes the given letters off the front. -/
def takeWord : List Char → List Char → Except Fault (List Char)
  | [], cs => .ok cs
  | _ :: _, [] => .error .truncated
  | w :: ws, c :: cs => if c = w then takeWord ws cs else .error .malformed

/-- A word is taken off the front of a text that starts with it. -/
@[simp] theorem takeWord_append (w cs : List Char) : takeWord w (w ++ cs) = .ok cs := by
  induction w with
  | nil => rfl
  | cons c w ih => simp [takeWord, ih]

end EgressWatch.Json
