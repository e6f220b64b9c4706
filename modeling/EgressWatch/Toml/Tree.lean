import EgressWatch.Toml.Value

/-!
# Tables under construction

A document builds its tables piece by piece, and what a later piece may add to a table depends on
how the table came to be (`Origin`). A table that was defined, by a header, between braces or as an
element of an array of tables, takes no additions through dotted keys from outside. A table implied
by the header of a table inside it may still get a header of its own, once. A table implied by
dotted keys takes more dotted keys, but no header.

A `Draft` is a document under construction: what is settled, the table that is being filled, and the
place where it belongs. A header settles that table and goes on to another one (`Draft.startTable`,
`Draft.startElement`); a line with a key puts a value into it (`Draft.put`). All of these come down
to changing the table at the end of a path (`Entries.update`), which implies the tables on the way
that are not there yet and fails where there is something else.
-/

namespace EgressWatch.Toml

/-- How a table came to be. -/
inductive Origin where
  | defined
  /-- Implied by the header of a table inside it. -/
  | impliedByHeader
  /-- Implied by a dotted key. -/
  | impliedByKey
  deriving DecidableEq

/-- What stands under a key. -/
inductive Node where
  | value (v : Toml)
  | table (origin : Origin) (entries : List (String × Node))
  | tables (elements : List (List (String × Node)))

/-- The keys of a table and what stands under them. -/
abbrev Entries := List (String × Node)

namespace Entries

/-- What stands under a key. -/
def find? (es : Entries) (key : String) : Option Node :=
  (List.find? (fun e => e.1 == key) es).map (·.2)

/-- Puts something else under a key. -/
def replace (es : Entries) (key : String) (n : Node) : Entries :=
  es.map fun e => if e.1 == key then (key, n) else e

/-- Takes a key away. -/
def without (es : Entries) (key : String) : Entries := es.filter fun e => e.1 != key

/-- Changes the table that a path leads to; tables on the way that are not there yet are implied.
A path leads into the last element of an array of tables. -/
def update {α : Type} (byKey : Bool) (change : Origin → Entries → Option (α × Entries)) :
    List String → Origin → Entries → Option (α × Entries)
  | [], origin, es => change origin es
  | key :: path, _, es =>
    match find? es key with
    | none =>
      let origin := if byKey then .impliedByKey else .impliedByHeader
      (update byKey change path origin []).map fun (a, inner) =>
        (a, es ++ [(key, .table origin inner)])
    | some (.value _) => none
    | some (.table origin inner) =>
      if byKey && origin == .defined then none
      else (update byKey change path origin inner).map fun (a, inner) =>
        (a, replace es key (.table origin inner))
    | some (.tables elements) =>
      match elements.getLast? with
      | none => none
      | some last =>
        (update byKey change path .defined last).map fun (a, last) =>
          (a, replace es key (.tables (elements.dropLast ++ [last])))

/-- Puts a value under a key, dotted if the path is not empty. A dotted key only adds to tables that
dotted keys imply. -/
def put (es : Entries) (path : List String) (key : String) (v : Toml) : Option Entries :=
  (update true (fun origin inner =>
    if (origin == .impliedByKey) == path.isEmpty || (find? inner key).isSome then none
    else some ((), inner ++ [(key, .value v)])) path .defined es).map (·.2)

end Entries

mutual

/-- The value that a finished node is. -/
def Node.toToml : Node → Toml
  | .value v => v
  | .table _ entries => .table (tomlEntries entries)
  | .tables elements => .list (tomlTables elements)

/-- The values of a finished table. -/
def tomlEntries : List (String × Node) → List (String × Toml)
  | [] => []
  | (key, n) :: rest => (key, n.toToml) :: tomlEntries rest

/-- The values of finished tables. -/
def tomlTables : List (List (String × Node)) → List Toml
  | [] => []
  | es :: rest => .table (tomlEntries es) :: tomlTables rest

end

/-- Where the table that is being filled belongs. -/
inductive Place where
  | root
  | table (path : List String) (key : String)
  /-- At the end of an array of tables. -/
  | element (path : List String) (key : String)

/-- A document under construction. -/
structure Draft where
  root : Entries := []
  /-- The table that is being filled. -/
  current : Entries := []
  place : Place := .root

namespace Draft

/-- Puts the table that was being filled where it belongs. -/
def settled (d : Draft) : Option Entries :=
  match d.place with
  | .root => some d.current
  | .table path key =>
    (Entries.update false (fun _ es =>
      if (Entries.find? es key).isSome then none
      else some ((), es ++ [(key, .table .defined d.current)])) path .defined d.root).map (·.2)
  | .element path key =>
    (Entries.update false (fun _ es =>
      match Entries.find? es key with
      | none => some ((), es ++ [(key, .tables [d.current])])
      | some (.tables elements) =>
        some ((), Entries.replace es key (.tables (elements ++ [d.current])))
      | some _ => none) path .defined d.root).map (·.2)

/-- Goes on to the table with a header. What is implied of it already stays in it. -/
def startTable (d : Draft) (path : List String) (key : String) : Option Draft := do
  let root ← d.settled
  let (current, root) ← Entries.update false (fun _ es =>
    match Entries.find? es key with
    | none => some (([] : Entries), es)
    | some (.table .impliedByHeader inner) => some (inner, Entries.without es key)
    | some _ => none) path .defined root
  some { root, current, place := .table path key }

/-- Goes on to a further element of an array of tables. -/
def startElement (d : Draft) (path : List String) (key : String) : Option Draft := do
  let root ← d.settled
  some { root, current := [], place := .element path key }

/-- Puts a value under a key of the table that is being filled. -/
def put (d : Draft) (path : List String) (key : String) (v : Toml) : Option Draft := do
  let current ← Entries.put d.current path key v
  some { d with current }

/-- The finished document. -/
def finish (d : Draft) : Option (List (String × Toml)) := d.settled.map tomlEntries

end Draft

end EgressWatch.Toml
