import EgressWatch.Json.Skip

/-!
# Records in JSON text

A record is read member by member as the text goes (`takeRecord`), so the first thing wrong decides
the fault. Its members may come in any order among unknown ones; a known one may come once. What a
member means is said by a `Member`: its key, how its value is read and put into the record under
construction, and whether it may be missing, which is noticed at the end of the object
(`takeMembers`). A list stands for a record as well: its items are the fields in order, of which the
optional ones may be missing at the end (`takeItems`).

All records are read by these functions, each from a list of its members, and none has a reader of
its own. The readers of single values (`takeString`, `takeFlag`, `takeUInt64`, `takeFloat`) take a
value of their type with space before it; a value of another type is a fault that depends on whether
it is JSON at all (`wrongType`). `readAll` reads a whole text, with nothing but space behind the
value.
-/

namespace EgressWatch.Json

/-! ## Values of one type -/

/-- The fault of a value of the wrong type: it is read to see whether it is JSON at all, but what
is inside a list or an object is not looked at. -/
def wrongType : List Char → Fault
  | [] => .truncated
  | c :: cs =>
    let verdict {α : Type} : Except Fault α → Fault
      | .ok _ => .mismatched
      | .error fault => fault
    if c = '"' then verdict (takeQuoted [] cs)
    else if c = 'n' then verdict (takeWord ['u', 'l', 'l'] cs)
    else if c = 't' then verdict (takeWord ['r', 'u', 'e'] cs)
    else if c = 'f' then verdict (takeWord ['a', 'l', 's', 'e'] cs)
    else if c = '-' ∨ c.isDigit then verdict (Number.take (c :: cs))
    else if c = '[' ∨ c = '\x7b' then .mismatched
    else .malformed

/-- A string off the front. -/
def takeString (cs : List Char) : Except Fault (String × List Char) :=
  match skipSpace cs with
  | '"' :: rest => do
    let (s, rest) ← takeQuoted [] rest
    .ok (String.ofList s, rest)
  | cs => .error (wrongType cs)

/-- `true` or `false` off the front. -/
def takeFlag (cs : List Char) : Except Fault (Bool × List Char) :=
  match skipSpace cs with
  | 't' :: rest => (takeWord ['r', 'u', 'e'] rest).map ((true, ·))
  | 'f' :: rest => (takeWord ['a', 'l', 's', 'e'] rest).map ((false, ·))
  | cs => .error (wrongType cs)

/-- A number off the front. -/
def takeNumber (cs : List Char) : Except Fault (Number × List Char) :=
  match skipSpace cs with
  | [] => .error .truncated
  | c :: rest =>
    if c = '-' ∨ c.isDigit then Number.take (c :: rest) else .error (wrongType (c :: rest))

/-- A whole number that an unsigned 64-bit word holds off the front. -/
def takeUInt64 (cs : List Char) : Except Fault (UInt64 × List Char) := do
  match ← takeNumber cs with
  | (.natural n, rest) => .ok (n, rest)
  | _ => .error .mismatched

/-- Any number off the front, as a double. -/
def takeFloat (cs : List Char) : Except Fault (Float × List Char) := do
  let (n, rest) ← takeNumber cs
  .ok (n.toFloat, rest)

/-- `null` or a value off the front. -/
def takeOptional {α : Type} (take : List Char → Except Fault (α × List Char)) (cs : List Char) :
    Except Fault (Option α × List Char) :=
  match skipSpace cs with
  | 'n' :: rest => (takeWord ['u', 'l', 'l'] rest).map ((none, ·))
  | cs => (take cs).map fun (a, rest) => (some a, rest)

/-! ## Records -/

/-- A member of a record that is built up in a `σ`. -/
structure Member (σ : Type) where
  key : String
  /-- The record cannot do without it. -/
  required : Bool
  /-- It has been read already. -/
  isSet : σ → Bool
  /-- Takes its value off the front; what comes back puts it into the record. -/
  take : List Char → Except Fault ((σ → σ) × List Char)

/-- A field from a reader of its values and a way to put them into the record. -/
def Member.of {σ α : Type} (key : String) (required : Bool) (isSet : σ → Bool)
    (take : List Char → Except Fault (α × List Char)) (put : α → σ → σ) : Member σ :=
  ⟨key, required, isSet, fun cs => (take cs).map fun (a, rest) => (put a, rest)⟩

/-- Takes the colon before the value of a member. -/
def takeColon (cs : List Char) : Except Fault (List Char) :=
  match skipSpace cs with
  | [] => .error .truncated
  | c :: rest => if c = ':' then .ok rest else .error .malformed

/-- Looks for a further member: its key with what follows, or what follows the end. -/
def takeKey (first : Bool) (cs : List Char) : Except Fault (Option String × List Char) :=
  match skipSpace cs with
  | [] => .error .truncated
  | c :: rest =>
    if c = '\x7d' then .ok (none, rest)
    else if first then
      if c = '"' then (takeQuoted [] rest).map fun (k, rest) => (some (String.ofList k), rest)
      else .error .malformed
    else if c = ',' then
      match skipSpace rest with
      | [] => .error .truncated
      | c :: rest =>
        if c = '"' then (takeQuoted [] rest).map fun (k, rest) => (some (String.ofList k), rest)
        else .error .malformed
    else .error .malformed

/-- Looks for a further item of a list: what starts with it, or what starts with the end. -/
def takeItem (first : Bool) (cs : List Char) : Except Fault (Bool × List Char) :=
  match skipSpace cs with
  | [] => .error .truncated
  | c :: rest =>
    if c = ']' then .ok (false, c :: rest)
    else if first then .ok (true, c :: rest)
    else if c = ',' then
      match skipSpace rest with
      | [] => .error .truncated
      | c :: rest => if c = ']' then .error .malformed else .ok (true, c :: rest)
    else .error .malformed

/-- The end of a list of which no further item is wanted. -/
def takeListEnd (cs : List Char) : Except Fault (List Char) :=
  match skipSpace cs with
  | [] => .error .truncated
  | c :: rest => if c = ']' then .ok rest else .error .malformed

variable {σ : Type}

/-- The members of an object up to its end, at most `fuel` of them. -/
def takeMembers (fields : List (Member σ)) :
    Nat → Bool → σ → List Char → Except Fault (σ × List Char)
  | 0, _, _, _ => .error .truncated
  | fuel + 1, first, s, cs => do
    match ← takeKey first cs with
    | (none, rest) =>
      if fields.any fun f => f.required && !f.isSet s then .error .mismatched else .ok (s, rest)
    | (some key, rest) =>
      match fields.find? (·.key == key) with
      | none =>
        let rest ← takeColon rest
        let rest ← skipValue rest
        takeMembers fields fuel false s rest
      | some f =>
        if f.isSet s then .error .mismatched
        else
          let rest ← takeColon rest
          let (put, rest) ← f.take rest
          takeMembers fields fuel false (put s) rest

/-- The items of a list that stands for a record, one for each field in order. -/
def takeItems : List (Member σ) → Bool → σ → List Char → Except Fault (σ × List Char)
  | [], _, s, cs => (takeListEnd cs).map ((s, ·))
  | f :: fields, first, s, cs => do
    let (more, rest) ← takeItem first cs
    if more then
      let (put, rest) ← f.take rest
      takeItems fields false (put s) rest
    else if (f :: fields).any (·.required) then .error .mismatched
    else (takeListEnd rest).map ((s, ·))

/-- A record off the front, built up from `empty`. -/
def takeRecord (fields : List (Member σ)) (empty : σ) (cs : List Char) :
    Except Fault (σ × List Char) :=
  match skipSpace cs with
  | '\x7b' :: rest => takeMembers fields (rest.length + 1) true empty rest
  | '[' :: rest => takeItems fields true empty rest
  | cs => .error (wrongType cs)

/-- Reads a whole text with a reader of values, only space following. -/
def readAll {α : Type} (take : List Char → Except Fault (α × List Char)) (text : String) :
    Except Fault α := do
  let (a, rest) ← take text.toList
  if (skipSpace rest).isEmpty then .ok a else .error .malformed

end EgressWatch.Json
