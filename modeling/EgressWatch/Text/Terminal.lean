import EgressWatch.Text.Utf8

/-!
# Text without commands to a terminal

Control characters in a text, and the sequences that an escape starts, are commands to a terminal.
Where what is written does not go to one they are left out, the white space of ASCII apart (`kept`).
Some sequences are short, some go on to a final character, and some hold a text of their own: which
is told by the character after the escape, and `Mode` says how far a sequence has come
(`Mode.next`).

While characters are kept, a control character only interrupts. A blank inside a sequence is kept
and so are the characters after it; the sequence goes on after the next interruption. For this a
`State` has, besides its mode, whether the character before was kept.
-/

namespace EgressWatch.Text.Terminal

/-- What a character may be a part of. -/
inductive Mode where
  /-- Plain text. -/
  | plain
  /-- What follows an escape. -/
  | escape
  /-- A sequence with further characters before the last. -/
  | longEscape
  /-- A control sequence, up to a letter or the like. -/
  | control
  /-- The start of a sequence for a device. -/
  | device
  /-- Its parameters. -/
  | parameters
  /-- What stands between them and the text. -/
  | middle
  /-- A text, up to an end sign. -/
  | body
  /-- A text for the system, up to a bell. -/
  | system
  deriving DecidableEq, Repr

/-- How far the writing has come. -/
structure State where
  mode : Mode := .plain
  /-- The character before was kept. -/
  isKeeping : Bool := false
  deriving DecidableEq, Repr

/-- The white space of ASCII. -/
def isSpace (c : Char) : Bool :=
  c == ' ' || c == '\t' || c == '\n' || c == '\x0c' || c == '\r'

/-- A character of ASCII that leaves a mark, or the blank. -/
def isPrintable (c : Char) : Bool := 0x20 ≤ c.toNat && c.toNat < 0x7F

/-- The mode after a character in a mode; a character in plain text changes nothing. -/
def Mode.next (m : Mode) (c : Char) : Mode :=
  let n := c.toNat
  if n == 0x1B then escape
  else if n == 0x18 || n == 0x1A then plain
  else match m with
    | plain => plain
    | escape =>
      if n < 0x20 || 0x7F ≤ n then escape
      else if n < 0x30 then longEscape
      else match c with
        | '[' => control
        | ']' => system
        | 'P' => device
        | 'X' | '^' | '_' => body
        | _ => plain
    | longEscape => if 0x30 ≤ n && n < 0x7F then plain else longEscape
    | control => if 0x40 ≤ n && n < 0x7F then plain else control
    | device =>
      if n < 0x20 || 0x7F ≤ n then device
      else if n < 0x30 then middle
      else if n < 0x40 then parameters
      else body
    | parameters =>
      if n < 0x20 || 0x7F ≤ n then parameters
      else if n < 0x30 then middle
      else if n < 0x3C then parameters
      else body
    | middle => if n < 0x30 || 0x7F ≤ n then middle else body
    | body => if 0x80 ≤ n && (Utf8.encode [c]).contains 0x9C then plain else body
    | system => if n == 0x07 then plain else system

/-- White space is kept in a mode. -/
def Mode.keepsSpace : Mode → Bool
  | plain | escape | longEscape | control => true
  | _ => false

/-- A character is kept. -/
def State.keeps (s : State) (c : Char) : Bool :=
  if s.isKeeping || s.mode = .plain then isPrintable c || isSpace c || 0x80 ≤ c.toNat
  else s.mode.keepsSpace && c != ' ' && isSpace c

/-- The state after a character. -/
def State.next (s : State) (c : Char) : State :=
  if s.keeps c then ⟨if 0x80 ≤ c.toNat then .plain else s.mode, true⟩ else ⟨s.mode.next c, false⟩

/-- The characters that are kept from a state on. -/
def keptFrom (s : State) : List Char → List Char
  | [] => []
  | c :: cs => if s.keeps c then c :: keptFrom (s.next c) cs else keptFrom (s.next c) cs

/-- A text without commands to a terminal. -/
def kept (s : String) : String := String.ofList (keptFrom {} s.toList)

end EgressWatch.Text.Terminal
