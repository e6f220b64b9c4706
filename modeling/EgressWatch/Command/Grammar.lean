import EgressWatch.Text.Painted
import EgressWatch.Text.Terminal
import EgressWatch.Text.Word

/-!
# The grammar of the command line

The program has commands, and both have options. An option is a flag or takes a value
(`OptionRule`); a command has a name, a line about it and its options (`CommandRule`). The path of
the configuration may be given before the command or after it (`configOption`), and `commandRules`
are all commands there are.

The reader of the command line goes by these rules and no others, and so does the help: that of the
program (`programHelp`), that of a command (`CommandRule.help`) and that of the help itself
(`helpHelp`) are written from them, in paint, with names in columns of one width.
-/

namespace EgressWatch.Command

open Text (paint)

/-- What an option takes. -/
inductive ValueKind where
  | flag
  /-- A path, which is not empty. -/
  | path
  | text
  /-- A word of 64 bits. -/
  | word
  deriving DecidableEq, Repr

/-- An option. -/
structure OptionRule where
  name : String
  kind : ValueKind
  about : String
  deriving DecidableEq, Repr

namespace OptionRule

/-- The sign that stands for the value of an option. -/
def sign (o : OptionRule) : String := (o.name.map fun c => if c = '-' then '_' else c).toUpper

/-- What stands behind an option for its value. -/
def valueSign (o : OptionRule) : String := if o.kind = .flag then "" else " <" ++ o.sign ++ ">"

/-- The option as it is shown. -/
def shown (o : OptionRule) : String := "--" ++ o.name ++ o.valueSign

/-- The option as it is shown in help. -/
def painted (o : OptionRule) : String := paint .literal ("--" ++ o.name) ++ o.valueSign

end OptionRule

/-- A command. -/
structure CommandRule where
  name : String
  about : String
  options : List OptionRule
  deriving DecidableEq, Repr

/-- The name of the program. -/
def programName : String := "tunnelmon"

/-- The version of the program. -/
def programVersion : String := "0.1.0"

/-- What the program is. -/
def programAbout : String :=
  "Network-health probe and multi-hop throughput tester for tunnelled egress"

/-- The path of the configuration. -/
def configOption : OptionRule := ⟨"config", .path, "Path to a TOML config file"⟩

/-- The address to listen at. -/
def bindOption : OptionRule := ⟨"bind", .text, "Bind address (overrides the config file)"⟩

/-- What is found is not to be kept. -/
def noSaveOption : OptionRule := ⟨"no-save", .flag, "Do not persist the result"⟩

/-- The token for the provider. -/
def tokenOption : OptionRule :=
  ⟨"token", .text, "Upstream provider token (defaults to the configured \x60*\x60 token)"⟩

/-- The window of history. -/
def rangeOption : OptionRule := ⟨"range", .text, "Window to show, e.g. 24h or 7d [default: 24h]"⟩

/-- The age from which on snapshots are removed. -/
def hoursOption : OptionRule :=
  ⟨"older-than-hours", .word, "Override the configured retention, in hours"⟩

/-- The commands. -/
def commandRules : List CommandRule := [
  ⟨"serve", "Start the API server", [bindOption]⟩,
  ⟨"status", "Run one network status probe and print it as JSON", [noSaveOption]⟩,
  ⟨"speed-test", "Run the segmented speed test and print it as JSON", [tokenOption, noSaveOption]⟩,
  ⟨"history", "Print persisted statuses and speed tests", [rangeOption]⟩,
  ⟨"prune", "Delete persisted records older than the retention window", [hoursOption]⟩]

/-- The name of the command that prints help. -/
def helpName : String := "help"

/-- What the command that prints help does. -/
def helpAbout : String := "Print this message or the help of the given subcommand(s)"

/-- The command with a name. -/
def commandRule? (name : String) : Option CommandRule :=
  commandRules.find? fun c => c.name == name

/-! ## Help -/

/-- A text filled up with blanks to a width, as it is seen. -/
def padTo (width : Nat) (s : String) : String :=
  s ++ String.ofList (List.replicate (width - (Text.Terminal.kept s).length) ' ')

/-- Terms with what they mean, in two columns. -/
def columns (entries : List (String × String)) : String :=
  let width := (entries.map fun e => (Text.Terminal.kept e.1).length).foldl max 0
  String.join (entries.map fun e => "  " ++ padTo width e.1 ++ "  " ++ e.2 ++ "\n")

/-- An option that has a letter as well. -/
def lettered (letter name : String) : String := paint .literal letter ++ ", " ++ paint .literal name

/-- Options with what they mean; those that every command has follow those given. -/
def optionColumns (options : List OptionRule) (withVersion : Bool) : String :=
  columns <|
    options.map (fun o => ("    " ++ o.painted, o.about)) ++
      [(lettered "-h" "--help", "Print help")] ++
      if withVersion then [(lettered "-V" "--version", "Print version")] else []

/-- How the program is used: what is typed as it stands, and what stands for something else. -/
def usage (typed others : String) : String :=
  paint .heading "Usage:" ++ " " ++ paint .literal typed ++ " " ++ others ++ "\n"

/-- A section of help. -/
def helpSection (title body : String) : String := "\n" ++ paint .heading title ++ "\n" ++ body

/-- The help of the program. -/
def programHelp : String :=
  programAbout ++ "\n\n" ++ usage programName "[OPTIONS] <COMMAND>" ++
    helpSection "Commands:" (columns
      (commandRules.map (fun c => (paint .literal c.name, c.about)) ++
        [(paint .literal helpName, helpAbout)])) ++
    helpSection "Options:" (optionColumns [configOption] true)

/-- The help of a command. -/
def CommandRule.help (c : CommandRule) : String :=
  c.about ++ "\n\n" ++ usage (programName ++ " " ++ c.name) "[OPTIONS]" ++
    helpSection "Options:" (optionColumns (c.options ++ [configOption]) false)

/-- The help of the command that prints help. -/
def helpHelp : String :=
  helpAbout ++ "\n\n" ++ usage (programName ++ " " ++ helpName) "[COMMAND]..." ++
    helpSection "Arguments:" (columns [("[COMMAND]...", "Print help for the subcommand(s)")])

/-- What the program says about its version. -/
def versionText : String := programName ++ " " ++ programVersion ++ "\n"

end EgressWatch.Command
