import EgressWatch.Store.Database

/-!
# The disk

The files that the program reads and writes, by the places where they are: plain files with their
text, such as configurations, and databases. A path leads to a place from the root or from the
working folder, part by part (`Place.ofPath`). Folders come into being with what is in them, so no
record is kept of them; what matters is that no file stands where a folder has to be
(`Disk.isBlocked`).

A database is opened at a path (`Disk.openDatabase`). Its folder is made if the path names one,
which may fail; a file that is not there yet, or has nothing in it, makes an empty database, and a
file with anything else in it is none. `OpenFault` tells these apart.
-/

namespace EgressWatch.Store

/-- What is at a place. -/
inductive Entry where
  | text (content : String)
  | database (d : Database)

/-- The way from the root to a file, folder by folder. -/
abbrev Place := List String

/-- The files of a disk by their places, each place once. -/
structure Disk where
  /-- The working folder, where paths start that do not start at the root. -/
  folder : Place := []
  entries : List (Place × Entry) := []

/-- Why a database could not be opened. -/
inductive OpenFault where
  /-- The folder for it could not be made. -/
  | folder (path : String)
  /-- There is a file at its path that holds something else. -/
  | notDatabase
  deriving DecidableEq, Repr

namespace OpenFault

/-- The fault in words. -/
def message : OpenFault → String
  | folder path => "failed to create database directory " ++ path
  | notDatabase => "timed out waiting for connection: file is not a database"

end OpenFault

/-! ## Paths -/

/-- The parts of a path between its slashes. -/
def pathParts (path : String) : List String := (path.toList.splitOn '/').map String.ofList

/-- A part that leads nowhere: the empty part between two slashes, or a single dot. -/
def isIdlePart (part : String) : Bool := part == "" || part == "."

/-- Cuts the idle parts at the end of a reversed path, but not the root. -/
def cutIdleParts : List String → List String
  | [] => []
  | [part] => [part]
  | part :: rest => if isIdlePart part then cutIdleParts rest else part :: rest

/-- The folder that a path lies in; empty if the path names none. -/
def parentPath (path : String) : String :=
  match cutIdleParts (pathParts path).reverse with
  | [] => ""
  | [_] => ""
  | _ :: rest =>
    match cutIdleParts rest with
    | [""] => "/"
    | parts => "/".intercalate parts.reverse

namespace Place

/-- One step further. Two dots lead a step back. -/
def step (p : Place) (part : String) : Place :=
  if isIdlePart part then p else if part == ".." then p.dropLast else p ++ [part]

/-- All places on the way of a path, from the root or from `folder`. -/
def along (folder : Place) (path : String) : List Place :=
  (pathParts path).foldl (fun way part => way ++ [(way.getLastD folder).step part])
    [if path.startsWith "/" then [] else folder]

/-- The place that a path leads to. -/
def ofPath (folder : Place) (path : String) : Place := (along folder path).getLastD folder

end Place

namespace Disk

/-- What a path leads to. -/
def find? (d : Disk) (path : String) : Option Entry :=
  (d.entries.find? fun e => e.1 == .ofPath d.folder path).map (·.2)

/-- The text of a plain file. -/
def read? (d : Disk) (path : String) : Option String :=
  match d.find? path with
  | some (.text content) => some content
  | _ => none

/-- The database at a path, an empty one if there is nothing yet or a file with nothing in it. A
file with something else in it is none. -/
def database? (d : Disk) (path : String) : Option Database :=
  match d.find? path with
  | none => some .empty
  | some (.database db) => some db
  | some (.text content) => if content == "" then some .empty else none

/-- Puts something where a path leads to. -/
def put (d : Disk) (path : String) (e : Entry) : Disk :=
  let place := Place.ofPath d.folder path
  { d with entries := (place, e) :: d.entries.filter (·.1 != place) }

/-- A file stands on the way of a path that has to be one of folders. -/
def isBlocked (d : Disk) (path : String) : Bool :=
  (Place.along d.folder path).any fun place => d.entries.any (·.1 == place)

/-- Makes the folder for a database if its path names one, then opens the database. -/
def openDatabase (d : Disk) (path : String) : Except OpenFault Database :=
  let folder := parentPath path
  if folder != "" && d.isBlocked folder then .error (.folder folder)
  else
    match d.database? path with
    | none => .error .notDatabase
    | some db => .ok db.opened

/-- Keeps a database at its path. -/
def keep (d : Disk) (path : String) (db : Database) : Disk := d.put path (.database db)

end Disk

example : parentPath "/a//b/./c/" = "/a//b" := by decide +kernel
example : Place.ofPath ["w"] "a/../b//c" = ["w", "b", "c"] := by decide +kernel

end EgressWatch.Store
