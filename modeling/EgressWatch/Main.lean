import EgressWatch.Command.Run
import EgressWatch.Store.File
import Std.Time.DateTime.Timestamp

/-!
# The program

The outermost layer: it fetches the files that a command line needs, runs it, and leaves behind what
comes of it. All decisions are made elsewhere, in `Command.runLine`, which takes a disk and returns
one.

What has to be fetched is found beforehand: the command line is read for the paths of configurations
(`configPaths`), and the configuration for the path of the database (`planned`). The run itself is
made on a disk that has all these (`runOn`), and of what it leaves only the database is written
back.

The program opens no connections and listens at no address: to it every network is unreachable and
every socket is refused.
-/

namespace EgressWatch

open Store Time

/-- The text of a file that can be read. -/
def readText? (path : String) : IO (Option String) := do
  try return some (← IO.FS.readFile path) catch _ => return none

/-- A disk of which nothing has been fetched yet. -/
def workingDisk : IO Disk := do
  return { folder := Place.ofPath [] (← IO.currentDir).toString }

/-- The disk with the plain files at these paths as well. -/
def fetchTexts (disk : Disk) (paths : List String) : IO Disk := do
  paths.foldlM (fun disk path => do
    match ← readText? path with
    | some text => return disk.put path (.text text)
    | none => return disk) disk

/-- The paths of the folders on the way to a database. -/
def folderPaths (disk : Disk) (path : String) : List String :=
  (Place.along disk.folder (parentPath path)).map fun place => "/" ++ "/".intercalate place

/-- The disk with what is in the file at the path of a database as well. -/
def fetchDatabase (disk : Disk) (path : String) : IO Disk := do
  try
    let text := String.ofList (Text.Utf8.decode (← IO.FS.readBinFile path).toList)
    match Table.ofFileText? text with
    | some table => return disk.keep path ⟨some table⟩
    | none => return disk.put path (.text text)
  catch _ => return disk

/-- Writes the database at a path to its file. -/
def storeDatabase (disk : Disk) (path : String) : IO Unit := do
  match disk.find? path with
  | some (.database ⟨some table⟩) =>
    let folder := parentPath path
    if folder != "" then IO.FS.createDirAll folder
    IO.FS.writeFile path table.fileText
  | _ => return

/-- The time. -/
def currentInstant : IO Instant := do
  let now ← Std.Time.Timestamp.now
  return (Instant.ofEpochNanos? now.toNanosecondsSinceUnixEpoch.val).getD .epoch

/-- The configuration that a command line is run with, as far as it comes to that. -/
def planned (disk : Disk) (configVariable : Option String) (arguments : List String) :
    Option Config := do
  let i ← (Command.readLine arguments).toOption
  (Config.resolve disk i.config configVariable).toOption

/-- The paths at which a command line looks for its configuration. -/
def configPaths (configVariable : Option String) (arguments : List String) : List String :=
  ((Command.readLine arguments).toOption.bind (·.config)).toList ++ configVariable.toList ++
    [Config.systemPath]

/-- Runs a command line on a disk and leaves behind what comes of it. -/
def runOn (disk : Disk) (path configVariable : Option String) (arguments : List String) :
    IO UInt32 := do
  let now ← currentInstant
  let wantsPaint :=
    Text.wantsPaint (← IO.getEnv Text.plainVariable) (← IO.getEnv Text.paintVariable)
  let host : Command.Host :=
    { configVariable, wantsPaint, refusal := fun _ => some "no sockets here" }
  let ((exit, left), _) := Command.runLine host disk arguments
    { network := .unreachable, clock := fun _ => now } {}
  if let some path := path then storeDatabase left path
  IO.print exit.out
  IO.eprint exit.err
  return exit.code

end EgressWatch

open EgressWatch in
/-- Runs the program. -/
def main (arguments : List String) : IO UInt32 := do
  let configVariable ← IO.getEnv Config.variableName
  let disk ← fetchTexts (← workingDisk) (configPaths configVariable arguments)
  match planned disk configVariable arguments with
  | none => runOn disk none configVariable arguments
  | some config =>
    let path := config.server.dbPath
    let disk ← fetchTexts disk (folderPaths disk path)
    runOn (← fetchDatabase disk path) (some path) configVariable arguments
