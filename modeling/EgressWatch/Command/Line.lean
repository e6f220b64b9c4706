import EgressWatch.Command.Grammar

/-!
# Reading the command line

Arguments are read from left to right (`readLine`), first those of the program up to the name of a
command (`Level.read`), then those of the command (`CommandRule.read`). Both levels take options in
the same way, by name (`Level.takeOption`) or by letter (`Level.takeLetter`), and keep what was
given in a `Progress`.

The value of an option stands behind an equals sign or in the next argument; in the second case it
is looked at when the next option or the end is reached (`Progress.settle`), so that an argument
that is unknown is told before a value that is wrong. An option may be given once.

Reading ends with an `Invocation`, which says what is to be done and under which configuration, or
it stops before (`Stop`): because something makes no sense, or because help or the version is asked
for, in which case the rest is not read.
-/

namespace EgressWatch.Command

open Text (WordFault paint readWord)

/-- What is to be done. -/
inductive Task where
  | serve (bind : Option String)
  | status (save : Bool)
  | speedTest (token : Option String) (save : Bool)
  | history (range : String)
  | prune (hours : Option UInt64)
  deriving DecidableEq, Repr

/-- What is to be done, and under which configuration. -/
structure Invocation where
  config : Option String
  task : Task
  deriving DecidableEq, Repr

/-- Why the command line makes no sense. -/
inductive LineFault where
  | unexpected (argument : String)
  | unknownCommand (argument : String)
  | missingCommand
  | missingValue (o : OptionRule)
  | repeated (o : OptionRule)
  | surplusValue (o : String) (value : String)
  | invalidValue (o : OptionRule) (value : String) (fault : WordFault)
  deriving DecidableEq, Repr

namespace LineFault

/-- The fault in words, in paint. -/
def message : LineFault → String
  | unexpected argument => "unexpected argument '" ++ paint .mistake argument ++ "' found"
  | unknownCommand argument => "unrecognized subcommand '" ++ paint .mistake argument ++ "'"
  | missingCommand =>
    "'" ++ paint .mistake programName ++ "' requires a subcommand but one was not provided"
  | missingValue o =>
    "a value is required for '" ++ paint .mistake o.shown ++ "' but none was supplied"
  | repeated o => "the argument '" ++ paint .mistake o.shown ++ "' cannot be used multiple times"
  | surplusValue o value =>
    "unexpected value '" ++ paint .mistake value ++ "' for '" ++ paint .literal o ++
      "' found; no more were expected"
  | invalidValue o value fault =>
    "invalid value '" ++ paint .mistake value ++ "' for '" ++ paint .literal o.shown ++ "': " ++
      fault.message

end LineFault

/-- Why reading ends before anything is to be done. -/
inductive Stop where
  | fault (f : LineFault)
  /-- Help was asked for. -/
  | help (text : String)
  | version
  /-- Nothing was given at all. -/
  | nothing
  deriving DecidableEq, Repr

/-- A command, or the program itself. -/
structure Level where
  options : List OptionRule
  commands : List String
  help : String
  hasVersion : Bool

/-- The program itself. -/
def programLevel : Level :=
  ⟨[configOption], commandRules.map (·.name) ++ [helpName], programHelp, true⟩

/-- The level of a command. -/
def CommandRule.level (c : CommandRule) : Level :=
  ⟨c.options ++ [configOption], [], c.help, false⟩

/-- The options that were given, and one that still waits for its value or to be looked at. -/
structure Progress where
  settings : List (String × String) := []
  pending : Option (OptionRule × Option String) := none

namespace Progress

/-- The value that an option was given. -/
def value? (p : Progress) (o : OptionRule) : Option String :=
  (p.settings.find? fun s => s.1 == o.name).map (·.2)

/-- Takes an option with its value, if it has not been given yet and the value will do. -/
def accept (p : Progress) (o : OptionRule) (value : String) : Except Stop Progress :=
  if (p.value? o).isSome then .error (.fault (.repeated o))
  else
    let p : Progress := ⟨p.settings ++ [(o.name, value)], none⟩
    match o.kind with
    | .path => if value = "" then .error (.fault (.missingValue o)) else .ok p
    | .word =>
      match readWord value.toList with
      | .error fault => .error (.fault (.invalidValue o value fault))
      | .ok _ => .ok p
    | _ => .ok p

/-- Looks at the option that waits. -/
def settle (p : Progress) : Except Stop Progress :=
  match p.pending with
  | none => .ok p
  | some (o, none) => .error (.fault (.missingValue o))
  | some (o, some value) => { p with pending := none }.accept o value

/-- An option waits for its value. -/
def isWaiting (p : Progress) : Bool :=
  match p.pending with
  | some (_, none) => true
  | _ => false

/-- Takes an argument as the value that an option waits for, if one does. -/
def supply (p : Progress) (argument : String) : Option Progress :=
  match p.pending with
  | some (o, none) => some { p with pending := some (o, some argument) }
  | _ => none

end Progress

/-! ## One argument -/

/-- The name of an option and the value behind the equals sign. -/
def splitOption (cs : List Char) : String × Option String :=
  match cs.span (· != '=') with
  | (name, _ :: value) => (String.ofList name, some (String.ofList value))
  | (name, []) => (String.ofList name, none)

/-- Stops, once the option that waits has been looked at, unless a value was given. -/
def stopAt (p : Progress) (name : String) (value : Option String) (stop : Stop) :
    Except Stop Progress :=
  match value with
  | some value => .error (.fault (.surplusValue ("--" ++ name) value))
  | none => do
    let _ ← p.settle
    .error stop

/-- Takes an option by its name. -/
def Level.takeOption (l : Level) (p : Progress) (cs : List Char) : Except Stop Progress :=
  let (name, value) := splitOption cs
  match l.options.find? fun o => o.name == name with
  | some o =>
    match o.kind, value with
    | .flag, some value => .error (.fault (.surplusValue o.shown value))
    | .flag, none => do (← p.settle).accept o ""
    | _, some value => do (← p.settle).accept o value
    | _, none => do
      let p ← p.settle
      .ok { p with pending := some (o, none) }
  | none =>
    if name = "help" then stopAt p name value (.help l.help)
    else if name = "version" ∧ l.hasVersion then stopAt p name value .version
    else .error (.fault (.unexpected ("--" ++ name)))

/-- Takes an option by its letter. -/
def Level.takeLetter (l : Level) (p : Progress) (c : Char) : Except Stop Progress :=
  if c = 'h' then stopAt p "help" none (.help l.help)
  else if c = 'V' ∧ l.hasVersion then stopAt p "version" none .version
  else .error (.fault (.unexpected (String.ofList ['-', c])))

/-- An argument that is neither an option nor a value. -/
def Level.stray (l : Level) (escaped : Bool) (argument : String) : LineFault :=
  if l.commands.isEmpty || (escaped && l.commands.contains argument) then .unexpected argument
  else .unknownCommand argument

/-! ## All arguments -/

/-- Reads arguments up to a command, or to the end. -/
def Level.read (l : Level) :
    List String → Progress → Except Stop (Progress × Option (String × List String))
  | [], p => .ok (p, none)
  | argument :: rest, p =>
    if !p.isWaiting && l.commands.contains argument then .ok (p, some (argument, rest))
    else match argument.toList with
      | ['-', '-'] =>
        match rest with
        | [] => .ok (p, none)
        | argument :: _ => .error (.fault (l.stray true argument))
      | '-' :: '-' :: cs => do l.read rest (← l.takeOption p cs)
      | '-' :: c :: _ => do l.read rest (← l.takeLetter p c)
      | _ =>
        match p.supply argument with
        | some p => l.read rest p
        | none => .error (.fault (l.stray false argument))

/-- Reads the arguments of a command to the end. -/
def CommandRule.read (c : CommandRule) (arguments : List String) : Except Stop Progress := do
  let (p, _) ← c.level.read arguments {}
  p.settle

/-- The task that a command with its options means. -/
def taskOf (c : CommandRule) (p : Progress) : Task :=
  match c.name with
  | "serve" => .serve (p.value? bindOption)
  | "status" => .status (p.value? noSaveOption).isNone
  | "speed-test" => .speedTest (p.value? tokenOption) (p.value? noSaveOption).isNone
  | "history" => .history ((p.value? rangeOption).getD "24h")
  | _ => .prune ((p.value? hoursOption).bind fun s => (readWord s.toList).toOption)

/-- The help on a command, which may be the one that asks for help. -/
def helpOn? (name : String) : Option String :=
  if name = helpName then some helpHelp else (commandRule? name).map (·.help)

/-- The help that is asked for with a command of its own. -/
def helpFor : List String → Stop
  | [] => .help programHelp
  | name :: rest =>
    match helpOn? name with
    | none => .fault (.unknownCommand name)
    | some text =>
      match rest with
      | [] => .help text
      | extra :: _ => .fault (.unknownCommand extra)

/-- Reads the command line. -/
def readLine (arguments : List String) : Except Stop Invocation := do
  let (p, command) ← programLevel.read arguments {}
  match command with
  | none =>
    let p ← p.settle
    .error (if p.settings.isEmpty then .nothing else .fault .missingCommand)
  | some (name, rest) =>
    match commandRule? name with
    | none => .error (helpFor rest)
    | some c =>
      let own ← c.read rest
      let p ← p.settle
      .ok { config := (own.value? configOption).or (p.value? configOption), task := taskOf c own }

end EgressWatch.Command
