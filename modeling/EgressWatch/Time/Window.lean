import EgressWatch.Text.Blank
import EgressWatch.Text.Word
import EgressWatch.Time.Span

/-!
# Windows

A window says how far back to look: a number of hours or days, such as `24h` or `7d`. Blanks around
it do not count, in the wide sense of blank. The last character is the unit and all before it has to
be a number, which may have a plus in front but no other sign, and no blanks between it and its
unit.

The number and the seconds it comes to have to fit an unsigned 64-bit word. A text that is no window
has none (`window?`), and what holds then is for its reader to say: the API looks back a day, and
the command line refuses.
-/

namespace EgressWatch.Time

/-- The seconds of a unit. -/
def unitSeconds? : Char → Option Nat
  | 'h' => some 3600
  | 'd' => some 86400
  | _ => none

/-- Reads a window. -/
def window? (s : String) : Option Span := do
  let cs := Text.trim s.toList
  let unit ← cs.getLast?
  let n ← (Text.readWord cs.dropLast).toOption
  let factor ← unitSeconds? unit
  if n.toNat * factor ≤ 18446744073709551615 then some (Span.ofSeconds (n.toNat * factor)) else none

end EgressWatch.Time
