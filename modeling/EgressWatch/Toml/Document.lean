import EgressWatch.Toml.Quoted
import EgressWatch.Toml.Scalar
import EgressWatch.Toml.Tree

/-!
# TOML documents

A document is a sequence of lines: a key with its value, the header of a table, the header of an
element of an array of tables, or nothing, each with or without a comment. Keys are bare or quoted
and may be dotted. Values may be nested to a limited depth, and so may the parts of a dotted key
(`maxDepth`).

`Toml.read?` reads a document or refuses it as a whole. It goes line by line (`takeLine`) with a
draft of the document, which knows what may be added where. Values that hold others are read by
three functions that call each other (`takeValue`, `takeItems`, `takeMembers`); each call has less
fuel than the one before, of which there is as much as there are characters, and depth is counted
apart from that, as too great a depth is a fault.
-/

namespace EgressWatch.Toml

/-- How deep values may be nested, and how many parts a key may have. -/
def maxDepth : Nat := 79

/-- Skips blanks within a line. -/
def skipBlank (cs : List Char) : List Char := cs.dropWhile isBlank

/-! ## Keys -/

/-- A character of a bare key. -/
def isBare (c : Char) : Bool := c.isAlphanum || c == '_' || c == '-'

/-- A part of a key off the front, blanks around it not counting. -/
def takePart (cs : List Char) : Option (String × List Char) :=
  let cs := skipBlank cs
  match cs with
  | '"' :: _ => (takeQuotedKey cs).map fun (k, rest) => (String.ofList k, skipBlank rest)
  | '\'' :: _ => (takeQuotedKey cs).map fun (k, rest) => (String.ofList k, skipBlank rest)
  | _ =>
    let k := cs.takeWhile isBare
    if k.isEmpty then none else some (String.ofList k, skipBlank (cs.drop k.length))

/-- A key off the front with at most so many parts after its first: the parts before the last, and
the last. -/
def takeKey : Nat → List Char → Option (List String × String × List Char)
  | more, cs =>
    match takePart cs with
    | none => none
    | some (part, '.' :: rest) =>
      match more with
      | 0 => none
      | more + 1 => (takeKey more rest).map fun (path, last, rest) => (part :: path, last, rest)
    | some (part, rest) => some ([], part, rest)

/-! ## Values -/

/-- Skips blanks, line ends and comments between the items of a list. -/
def skipFiller (inComment : Bool) : List Char → Option (List Char)
  | [] => some []
  | c :: cs =>
    if c = '\n' then skipFiller false cs
    else if c = '\r' then if isLineEnd cs then skipFiller inComment cs else none
    else if inComment then if isPlain c then skipFiller true cs else none
    else if isBlank c then skipFiller false cs
    else if c = '#' then skipFiller true cs
    else some (c :: cs)

/-- A character of a number, a flag or a moment. -/
def isScalarChar (c : Char) : Bool :=
  c.isAlphanum || c == '_' || c == '+' || c == '-' || c == '.' || c == ':'

/-- A date that a blank and a time of day follow. -/
def takeSpacedMoment (date : List Char) : List Char → Option (Toml × List Char)
  | ' ' :: c :: cs =>
    let time := (c :: cs).takeWhile isScalarChar
    if c.isDigit && (takeDate date).any (·.2.isEmpty) then
      (moment? (date ++ ' ' :: time)).map fun m =>
        (.moment (String.ofList m), (c :: cs).drop time.length)
    else none
  | _ => none

/-- A number, a flag or a moment off the front. -/
def takeScalar (cs : List Char) : Option (Toml × List Char) :=
  let word := cs.takeWhile isScalarChar
  let rest := cs.drop word.length
  match takeSpacedMoment word rest with
  | some v => some v
  | none => (scalar? word).map (·, rest)

mutual

/-- A value off the front that holds others to a depth at most. Each step uses up `fuel`. -/
def takeValue : Nat → Nat → List Char → Option (Toml × List Char)
  | 0, _, _ => none
  | fuel + 1, depth, cs =>
    match cs with
    | '[' :: rest =>
      if depth = 0 then none
      else do
        let rest ← skipFiller false rest
        let (items, rest) ← takeItems fuel (depth - 1) rest
        some (.list items, rest)
    | '\x7b' :: rest =>
      if depth = 0 then none
      else match skipBlank rest with
        | '\x7d' :: rest => some (.table [], rest)
        | rest => do
          let (entries, rest) ← takeMembers fuel (depth - 1) [] rest
          some (.table (tomlEntries entries), rest)
    | '"' :: _ => (takeQuoted cs).map fun (s, rest) => (.text (String.ofList s), rest)
    | '\'' :: _ => (takeQuoted cs).map fun (s, rest) => (.text (String.ofList s), rest)
    | cs => takeScalar cs

/-- The items of a list up to its end. -/
def takeItems : Nat → Nat → List Char → Option (List Toml × List Char)
  | 0, _, _ => none
  | fuel + 1, depth, cs =>
    match cs with
    | ']' :: rest => some ([], rest)
    | cs => do
      let (v, rest) ← takeValue fuel depth cs
      let rest ← skipFiller false rest
      match rest with
      | ']' :: rest => some ([v], rest)
      | ',' :: rest =>
        let rest ← skipFiller false rest
        let (vs, rest) ← takeItems fuel depth rest
        some (v :: vs, rest)
      | _ => none

/-- The keys and values between braces up to the end. -/
def takeMembers : Nat → Nat → Entries → List Char → Option (Entries × List Char)
  | 0, _, _, _ => none
  | fuel + 1, depth, entries, cs => do
    let (path, key, rest) ← takeKey (maxDepth - 1) cs
    match rest with
    | '=' :: rest =>
      let (v, rest) ← takeValue fuel depth (skipBlank rest)
      let entries ← entries.put path key v
      match skipBlank rest with
      | '\x7d' :: rest => some (entries, rest)
      | ',' :: rest => takeMembers fuel depth entries rest
      | _ => none
    | _ => none

end

/-! ## Lines -/

/-- The end of a line off the front, with the comment before it; the text may end here. -/
def takeLineEnd (cs : List Char) : Option (List Char) :=
  let rest := match skipBlank cs with
    | '#' :: rest => rest.dropWhile isPlain
    | rest => rest
  match rest with
  | [] => some []
  | '\n' :: rest => some rest
  | '\r' :: '\n' :: rest => some rest
  | _ => none

/-- Adds a line to a document. -/
def takeLine (d : Draft) (cs : List Char) : Option (Draft × List Char) :=
  match skipBlank cs with
  | '[' :: '[' :: rest => do
    let (path, key, rest) ← takeKey (maxDepth - 1) rest
    match rest with
    | ']' :: ']' :: rest =>
      let d ← d.startElement path key
      some (d, ← takeLineEnd rest)
    | _ => none
  | '[' :: rest => do
    let (path, key, rest) ← takeKey (maxDepth - 1) rest
    match rest with
    | ']' :: rest =>
      let d ← d.startTable path key
      some (d, ← takeLineEnd rest)
    | _ => none
  | c :: rest =>
    if c = '#' || c = '\n' || c = '\r' then (takeLineEnd (c :: rest)).map (d, ·)
    else do
      let (path, key, rest) ← takeKey (maxDepth - 1) (c :: rest)
      match rest with
      | '=' :: rest =>
        let (v, rest) ← takeValue (2 * rest.length + 2) maxDepth (skipBlank rest)
        let d ← d.put path key v
        some (d, ← takeLineEnd rest)
      | _ => none
  | [] => some (d, [])

/-- Adds lines to a document, at most `fuel` of them. -/
def takeLines : Nat → Draft → List Char → Option Draft
  | _, d, [] => some d
  | 0, _, _ :: _ => none
  | fuel + 1, d, c :: cs => do
    let (d, rest) ← takeLine d (c :: cs)
    takeLines fuel d rest

/-- Reads a document. A mark of byte order at its start does not count. -/
def read? (text : String) : Option (List (String × Toml)) := do
  let cs := match text.toList with
    | '\uFEFF' :: cs => cs
    | cs => cs
  let d ← takeLines cs.length {} cs
  d.finish

end EgressWatch.Toml
