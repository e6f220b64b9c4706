/-!
# Painted text

Parts of a text may stand out on a terminal by their colour or weight. A command before such a part
says how it looks, and one after it says that all is as usual again.
-/

namespace EgressWatch.Text

/-- How a part of a text looks. -/
inductive Look where
  /-- The title of a section. -/
  | heading
  /-- What is to be typed as it stands. -/
  | literal
  /-- What is wrong. -/
  | mistake
  /-- What says that something is wrong. -/
  | alarm
  deriving DecidableEq, Repr

/-- The command before a part. -/
def Look.command : Look → String
  | heading => "\x1b[1m\x1b[4m"
  | literal => "\x1b[1m"
  | mistake => "\x1b[33m"
  | alarm => "\x1b[1m\x1b[31m"

/-- The command after a part. -/
def plainCommand : String := "\x1b[0m"

/-- A part of a text with its commands. -/
def paint (look : Look) (s : String) : String := look.command ++ s ++ plainCommand

/-- The variable of the environment that rules paint out. -/
def plainVariable : String := "NO_COLOR"

/-- The variable of the environment that forces paint. -/
def paintVariable : String := "CLICOLOR_FORCE"

/-- Text that does not go to a terminal is painted where that is forced and not ruled out. A
variable that is empty says nothing. -/
def wantsPaint (plain forced : Option String) : Bool := plain.getD "" == "" && forced.getD "" != ""

end EgressWatch.Text
