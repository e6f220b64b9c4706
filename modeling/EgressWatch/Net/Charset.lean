import EgressWatch.Text.Utf8

/-!
# Character sets

How the bytes of a text are to be read (`bodyText`). The type of the content names a character set
(`labelOf?`, `Charset.ofLabel?`), and a mark at the start of the bytes outdoes it and is cut off
(`Charset.decodeMarked`). Where nothing is named, or nothing that is known here, the text is UTF-8.

No bytes are refused. Those that mean nothing are read as U+FFFD, in UTF-8 one such character for
each longest part that could have begun one, in UTF-16 one for each half of a pair that stands alone
and one for a byte that is left over.
-/

namespace EgressWatch.Net

open Text

/-- A character set. -/
inductive Charset where
  | utf8
  | utf16Little
  | utf16Big
  | windows1252
  deriving DecidableEq, Repr

namespace Charset

/-- The character set with a label. -/
def ofLabel? (label : String) : Option Charset :=
  let label := label.toLower
  if ["utf-8", "utf8", "unicode-1-1-utf-8", "unicode11utf8", "unicode20utf8",
      "x-unicode20utf8"].contains label then some utf8
  else if ["utf-16", "utf-16le", "unicode", "ucs-2", "iso-10646-ucs-2", "csunicode",
      "unicodefeff"].contains label then some utf16Little
  else if ["utf-16be", "unicodefffe"].contains label then some utf16Big
  else if ["windows-1252", "cp1252", "x-cp1252", "iso-8859-1", "iso8859-1", "iso88591",
      "iso_8859-1", "latin1", "l1", "ascii", "us-ascii", "cp819", "ibm819", "iso-ir-100",
      "csisolatin1", "ansi_x3.4-1968"].contains label then some windows1252
  else none

/-- The label of the character set in the type of a content. -/
def labelOf? (contentType : String) : Option String :=
  (contentType.splitOn ";").tail.findSome? fun parameter =>
    match parameter.trimAscii.toString.splitOn "=" with
    | [key, value] =>
      if key.toLower == "charset" then some (String.ofList (value.toList.filter (· != '"')))
      else none
    | _ => none

/-- The characters of the bytes from 0x80 to 0x9F in the western set. -/
def westernSigns : List Nat :=
  [0x20AC, 0x81, 0x201A, 0x0192, 0x201E, 0x2026, 0x2020, 0x2021, 0x02C6, 0x2030, 0x0160, 0x2039,
    0x0152, 0x8D, 0x017D, 0x8F, 0x90, 0x2018, 0x2019, 0x201C, 0x201D, 0x2022, 0x2013, 0x2014,
    0x02DC, 0x2122, 0x0161, 0x203A, 0x0153, 0x9D, 0x017E, 0x0178]

/-- The character of a byte in the western set. -/
def western (b : UInt8) : Char :=
  let n := b.toNat
  Char.ofNat (if 0x80 ≤ n ∧ n < 0xA0 then westernSigns.getD (n - 0x80) n else n)

/-- The units of 16 bits that bytes make up, and whether a byte is left over. -/
def units (big : Bool) : List UInt8 → List Nat × Bool
  | [] => ([], false)
  | [_] => ([], true)
  | a :: b :: rest =>
    let (us, odd) := units big rest
    ((if big then a.toNat * 256 + b.toNat else b.toNat * 256 + a.toNat) :: us, odd)

/-- The characters that units of 16 bits make up: a pair is one character, and half a pair none. -/
def ofUnits : List Nat → List Char
  | [] => []
  | [u] => if 0xD800 ≤ u ∧ u ≤ 0xDFFF then ['\uFFFD'] else [Char.ofNat u]
  | u :: v :: rest =>
    if 0xD800 ≤ u ∧ u ≤ 0xDBFF then
      if 0xDC00 ≤ v ∧ v ≤ 0xDFFF then
        Char.ofNat ((u - 0xD800) * 0x400 + (v - 0xDC00) + 0x10000) :: ofUnits rest
      else '\uFFFD' :: ofUnits (v :: rest)
    else if 0xDC00 ≤ u ∧ u ≤ 0xDFFF then '\uFFFD' :: ofUnits (v :: rest)
    else Char.ofNat u :: ofUnits (v :: rest)

/-- The text of bytes in a character set. -/
def decode (set : Charset) (bs : List UInt8) : List Char :=
  match set with
  | utf8 => Utf8.decode bs
  | windows1252 => bs.map western
  | utf16Little =>
    let (us, odd) := units false bs
    ofUnits us ++ if odd then ['\uFFFD'] else []
  | utf16Big =>
    let (us, odd) := units true bs
    ofUnits us ++ if odd then ['\uFFFD'] else []

/-- The text of bytes in a character set, unless a mark at the start tells another. -/
def decodeMarked (set : Charset) : List UInt8 → List Char
  | 0xEF :: 0xBB :: 0xBF :: rest => utf8.decode rest
  | 0xFF :: 0xFE :: rest => utf16Little.decode rest
  | 0xFE :: 0xFF :: rest => utf16Big.decode rest
  | bs => set.decode bs

end Charset

/-- The text of a body with this type of content. -/
def bodyText (contentType : Option String) (bs : List UInt8) : String :=
  let set := (contentType.bind Charset.labelOf?).bind Charset.ofLabel?
  String.ofList ((set.getD .utf8).decodeMarked bs)

end EgressWatch.Net
