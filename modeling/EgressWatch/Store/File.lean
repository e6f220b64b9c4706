import EgressWatch.Json.Record
import EgressWatch.Store.Database

/-!
# Tables as text

A table is kept in a file with four lines for each row: the number of the row, and its columns
(`Row.lines`). A column with text is written as a JSON string, which has no line ends in it, and one
with bytes as an `x` with two hexadecimal digits for each byte (`hexText`), so that the first
character of a line tells them apart.

`fileText` writes a table and `ofFileText?` reads one. A file that was not written so has none, and
is no database.
-/

namespace EgressWatch.Store

open Text

namespace Cell

/-- The hexadecimal digits of bytes, two for each. -/
def hexText (bytes : List UInt8) : List Char :=
  bytes.flatMap fun b => [hexDigit (b.toNat / 16), hexDigit (b.toNat % 16)]

/-- The bytes of hexadecimal digits, two for each. -/
def ofHexText? : List Char → Option (List UInt8)
  | [] => some []
  | [_] => none
  | a :: b :: rest => do
    let high ← hexValue? a
    let low ← hexValue? b
    let bytes ← ofHexText? rest
    some (UInt8.ofNat (high * 16 + low) :: bytes)

/-- The line of a column. -/
def line : Cell → String
  | text s => String.ofList (Json.quoted s.toList)
  | blob bytes => String.ofList ('x' :: hexText bytes)

/-- The column that a line stands for. -/
def ofLine? (s : String) : Option Cell :=
  match s.toList with
  | 'x' :: digits => (ofHexText? digits).map blob
  | _ => (Json.readAll Json.takeString s).toOption.map text

end Cell

/-- The lines of a row. -/
def Row.lines (r : Row) : List String :=
  [toString r.id, r.kind.line, r.payload.line, r.created.line]

namespace Table

/-- The rows that lines stand for, up to an empty one at the end. -/
def rowsOfLines? : List String → Option (List Row)
  | [] => some []
  | [last] => if last == "" then some [] else none
  | id :: kind :: payload :: created :: rest => do
    let id ← id.toInt?
    let kind ← Cell.ofLine? kind
    let payload ← Cell.ofLine? payload
    let created ← Cell.ofLine? created
    let rows ← rowsOfLines? rest
    some (⟨id, kind, payload, created⟩ :: rows)
  | _ => none

/-- The text of a table. -/
def fileText (t : Table) : String :=
  String.join ((t.rows.flatMap Row.lines).map (· ++ "\n"))

/-- The table of a text. -/
def ofFileText? (s : String) : Option Table := (rowsOfLines? (s.splitOn "\n")).map (⟨·⟩)

end Table

example : Cell.ofLine? (Cell.blob [0, 0xAB]).line = some (.blob [0, 0xAB]) := by decide +kernel

end EgressWatch.Store
