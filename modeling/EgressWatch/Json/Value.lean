import EgressWatch.Json.Number
import EgressWatch.Json.Quoted

/-!
# JSON values

Values as trees, and their two written forms: `compact` without any space, and `pretty` with one
member or item to a line and two blanks of indentation for each level. Both leave the members of an
object in their order; `sorted` puts them in the order of their keys at every depth, which is the
order of code points.

Values are written and never looked up in: what is read from a text goes straight into a record.
Members that may be missing are left out when they are (`member?`), and values that may be are
written as `null` (`optional`).
-/

namespace EgressWatch

/-- A JSON value. -/
inductive Json where
  | null
  | flag (b : Bool)
  | whole (n : Int)
  | real (x : Float)
  | text (s : String)
  | list (items : List Json)
  | object (members : List (String × Json))

namespace Json

/-- A word of 64 bits. -/
def word (n : UInt64) : Json := .whole n.toNat

/-- A value that need not be there. -/
def optional {α : Type} (f : α → Json) : Option α → Json
  | none => .null
  | some a => f a

/-- A member that is left out when its value is not there. -/
def member? {α : Type} (key : String) (f : α → Json) : Option α → List (String × Json)
  | none => []
  | some a => [(key, f a)]

/-- A double that is no number has no form of its own. -/
def realText (x : Float) : List Char := if x.isFinite then floatText x else "null".toList

/-- The text of a value that holds no others. -/
def scalarText : Json → List Char
  | .null => "null".toList
  | .flag b => if b then "true".toList else "false".toList
  | .whole n => intText n
  | .real x => realText x
  | .text s => quoted s.toList
  | .list _ => []
  | .object _ => []

mutual

/-- The text of a value without any space. -/
def compactText : Json → List Char
  | .list items => '[' :: compactItems items ++ [']']
  | .object members => '\x7b' :: compactMembers members ++ ['\x7d']
  | v => scalarText v

/-- The texts of items with commas between them. -/
def compactItems : List Json → List Char
  | [] => []
  | [v] => compactText v
  | v :: w :: rest => compactText v ++ ',' :: compactItems (w :: rest)

/-- The texts of members with commas between them. -/
def compactMembers : List (String × Json) → List Char
  | [] => []
  | [(k, v)] => quoted k.toList ++ ':' :: compactText v
  | (k, v) :: m :: rest =>
    quoted k.toList ++ ':' :: compactText v ++ ',' :: compactMembers (m :: rest)

end

/-- A new line at a level of indentation. -/
def newLine (level : Nat) : List Char := '\n' :: List.replicate (2 * level) ' '

mutual

/-- The text of a value in lines, those after the first at `level` or deeper. -/
def prettyText (level : Nat) : Json → List Char
  | .list [] => ['[', ']']
  | .list (v :: rest) => '[' :: prettyItems level (v :: rest) ++ newLine level ++ [']']
  | .object [] => ['\x7b', '\x7d']
  | .object (m :: rest) => '\x7b' :: prettyMembers level (m :: rest) ++ newLine level ++ ['\x7d']
  | v => scalarText v

/-- The texts of items, each on a line of its own one level deeper. -/
def prettyItems (level : Nat) : List Json → List Char
  | [] => []
  | [v] => newLine (level + 1) ++ prettyText (level + 1) v
  | v :: w :: rest =>
    newLine (level + 1) ++ prettyText (level + 1) v ++ ',' :: prettyItems level (w :: rest)

/-- The texts of members, each on a line of its own one level deeper. -/
def prettyMembers (level : Nat) : List (String × Json) → List Char
  | [] => []
  | [(k, v)] =>
    newLine (level + 1) ++ quoted k.toList ++ ':' :: ' ' :: prettyText (level + 1) v
  | (k, v) :: m :: rest =>
    newLine (level + 1) ++ quoted k.toList ++ ':' :: ' ' :: prettyText (level + 1) v ++
      ',' :: prettyMembers level (m :: rest)

end

mutual

/-- The value with the members of all objects in the order of their keys. -/
def sorted : Json → Json
  | .list items => .list (sortedItems items)
  | .object members => .object ((sortedMembers members).mergeSort fun a b => decide (a.1 ≤ b.1))
  | v => v

/-- Items with the members of all objects in the order of their keys. -/
def sortedItems : List Json → List Json
  | [] => []
  | v :: rest => sorted v :: sortedItems rest

/-- Members in their own order, those of the objects in them in the order of their keys. -/
def sortedMembers : List (String × Json) → List (String × Json)
  | [] => []
  | (k, v) :: rest => (k, sorted v) :: sortedMembers rest

end

/-- The text of a value without any space. -/
def compact (v : Json) : String := String.ofList v.compactText

/-- The text of a value in lines. -/
def pretty (v : Json) : String := String.ofList (v.prettyText 0)

end Json

end EgressWatch
