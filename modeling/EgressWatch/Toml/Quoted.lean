import EgressWatch.Text.Digits

/-!
# Quoted text in TOML

Text stands between double quotes, with escapes (`takeBasic`), or between single quotes, as it is
(`takeLiteral`); either between one quote on each side, on one line, or between three, over any
number of lines (`takeMultiBasic`, `takeMultiLiteral`). Keys take only the forms of one line
(`takeQuotedKey`).

A line end right after three quotes does not count (`cutLineEnd`), a backslash at the end of a line
swallows the blanks that follow, and up to two quotes may stand before the three that end the text.
What a backslash has begun is remembered from character to character (`Mode`). Line ends read as
line feeds, and other control characters are not allowed, the tab apart.
-/

namespace EgressWatch.Toml

open Text

/-- A blank within a line. -/
def isBlank (c : Char) : Bool := c == ' ' || c == '\t'

/-- A character that may stand in a text or a comment. -/
def isPlain (c : Char) : Bool := c == '\t' || (0x20 ≤ c.toNat && c.toNat != 0x7F)

/-- The character with a number, if it has one. -/
def scalarChar? (n : Nat) : Option Char := if n.isValidChar then some (Char.ofNat n) else none

/-- The character that hexadecimal digits stand for. -/
def hexChar? (ds : List Char) : Option Char := do
  let ns ← ds.mapM hexValue?
  scalarChar? (ns.foldl (fun n d => n * 16 + d) 0)

/-- The character that an escape of one letter stands for. -/
def shortEscape? : Char → Option Char
  | '"' => some '"'
  | '\\' => some '\\'
  | 'b' => some '\x08'
  | 't' => some '\t'
  | 'n' => some '\n'
  | 'f' => some '\x0c'
  | 'r' => some '\r'
  | _ => none

/-- Puts a character in front of a text that was read, if both were. -/
def before (c : Option Char) (text : Option (List Char × List Char)) :
    Option (List Char × List Char) := do
  let c ← c
  let (cs, rest) ← text
  some (c :: cs, rest)

/-- The rest of a text between double quotes on one line. -/
def takeBasic : List Char → Option (List Char × List Char)
  | [] => none
  | '"' :: cs => some ([], cs)
  | '\\' :: 'u' :: a :: b :: c :: d :: cs => before (hexChar? [a, b, c, d]) (takeBasic cs)
  | '\\' :: 'U' :: a :: b :: c :: d :: e :: f :: g :: h :: cs =>
    before (hexChar? [a, b, c, d, e, f, g, h]) (takeBasic cs)
  | '\\' :: c :: cs => before (shortEscape? c) (takeBasic cs)
  | c :: cs => if isPlain c then before (some c) (takeBasic cs) else none

/-- The rest of a text between single quotes on one line. -/
def takeLiteral : List Char → Option (List Char × List Char)
  | [] => none
  | '\'' :: cs => some ([], cs)
  | c :: cs => if isPlain c then before (some c) (takeLiteral cs) else none

/-- Where a text over several lines is. -/
inductive Mode where
  | text
  /-- Behind a backslash, before the end of its line. -/
  | lineEnd
  /-- Behind the end of such a line. -/
  | blank
  deriving DecidableEq

/-- A carriage return counts only before a line feed. -/
def isLineEnd (cs : List Char) : Bool := cs.head? == some '\n'

/-- The rest of a text between three double quotes on each side. -/
def takeMultiBasic (mode : Mode) : List Char → Option (List Char × List Char)
  | [] => none
  | '"' :: '"' :: '"' :: '"' :: '"' :: cs =>
    if mode = .lineEnd then none else some (['"', '"'], cs)
  | '"' :: '"' :: '"' :: '"' :: cs => if mode = .lineEnd then none else some (['"'], cs)
  | '"' :: '"' :: '"' :: cs => if mode = .lineEnd then none else some ([], cs)
  | '\\' :: 'u' :: a :: b :: c :: d :: cs =>
    if mode = .lineEnd then none else before (hexChar? [a, b, c, d]) (takeMultiBasic .text cs)
  | '\\' :: 'U' :: a :: b :: c :: d :: e :: f :: g :: h :: cs =>
    if mode = .lineEnd then none
    else before (hexChar? [a, b, c, d, e, f, g, h]) (takeMultiBasic .text cs)
  | '\\' :: c :: cs =>
    if mode = .lineEnd then none
    else if isBlank c then takeMultiBasic .lineEnd cs
    else if c = '\n' then takeMultiBasic .blank cs
    else if c = '\r' then if isLineEnd cs then takeMultiBasic .lineEnd cs else none
    else before (shortEscape? c) (takeMultiBasic .text cs)
  | c :: cs =>
    match mode with
    | .lineEnd =>
      if isBlank c || (c = '\r' && isLineEnd cs) then takeMultiBasic .lineEnd cs
      else if c = '\n' then takeMultiBasic .blank cs
      else none
    | .blank =>
      if isBlank c || c = '\n' || (c = '\r' && isLineEnd cs) then takeMultiBasic .blank cs
      else if isPlain c then before (some c) (takeMultiBasic .text cs)
      else none
    | .text =>
      if c = '\r' && isLineEnd cs then takeMultiBasic .text cs
      else if c = '\n' || isPlain c then before (some c) (takeMultiBasic .text cs)
      else none

/-- The rest of a text between three single quotes on each side. -/
def takeMultiLiteral : List Char → Option (List Char × List Char)
  | [] => none
  | '\'' :: '\'' :: '\'' :: '\'' :: '\'' :: cs => some (['\'', '\''], cs)
  | '\'' :: '\'' :: '\'' :: '\'' :: cs => some (['\''], cs)
  | '\'' :: '\'' :: '\'' :: cs => some ([], cs)
  | c :: cs =>
    if c = '\r' && isLineEnd cs then takeMultiLiteral cs
    else if c = '\n' || isPlain c then before (some c) (takeMultiLiteral cs)
    else none

/-- Cuts the line end at the start of a text over several lines. -/
def cutLineEnd : List Char → List Char
  | '\n' :: cs => cs
  | '\r' :: '\n' :: cs => cs
  | cs => cs

/-- A quoted text on one line off the front. -/
def takeQuotedKey : List Char → Option (List Char × List Char)
  | '"' :: cs => takeBasic cs
  | '\'' :: cs => takeLiteral cs
  | _ => none

/-- A quoted text off the front. -/
def takeQuoted : List Char → Option (List Char × List Char)
  | '"' :: '"' :: '"' :: cs => takeMultiBasic .text (cutLineEnd cs)
  | '\'' :: '\'' :: '\'' :: cs => takeMultiLiteral (cutLineEnd cs)
  | cs => takeQuotedKey cs

end EgressWatch.Toml
