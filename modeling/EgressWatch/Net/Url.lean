import EgressWatch.Net.Host

/-!
# Addresses on the web

An address names a scheme, and then either a place on a host, with a path in segments, a query and a
fragment, or something that has no parts (`Url`, `Path`). Reading brings an address to one form: the
scheme and the name of the host in small letters, the port left out where it is the scheme's own,
dot segments resolved, and characters that are not allowed percent-encoded.

The well-known schemes are read more freely (`isSpecial`): backslashes count as slashes, and any
number of them may follow the scheme of a place on the web. A file may be on a drive, which no step
upwards leaves (`readFile`).

`Url.read` goes from the front: the scheme (`takeScheme`), then what the scheme asks for, of which
the authority is cut off before the path is looked at (`readPlace?`), then query and fragment
(`readTail`). An address may also be read as seen from another, its base (`Url.join`), from which it
takes all parts before the first that it has itself (`readFrom?`).
-/

namespace EgressWatch.Net

open Text

/-- The path of an address. -/
inductive Path where
  /-- Segments, each after a slash. -/
  | segments (ss : List String)
  /-- Anything, of an address that names no place. -/
  | plain (s : String)
  deriving DecidableEq, Repr

/-- An address on the web. -/
structure Url where
  scheme : String
  username : String := ""
  password : Option String := none
  /-- There is a part between two slashes and the path, be it empty. -/
  hasAuthority : Bool
  host : Option Host
  /-- The port, unless it is the scheme's own. -/
  port : Option Nat := none
  path : Path
  query : Option String := none
  fragment : Option String := none
  deriving DecidableEq, Repr

/-- Why a text is no address. -/
inductive UrlFault where
  /-- It names no scheme, and there is no base. -/
  | relative
  | invalid
  deriving DecidableEq, Repr

namespace Url

/-- The port of a well-known scheme. -/
def ownPort? (scheme : String) : Option Nat :=
  match scheme with
  | "http" | "ws" => some 80
  | "https" | "wss" => some 443
  | "ftp" => some 21
  | _ => none

/-- The schemes that are read more freely. -/
def isSpecial (scheme : String) : Bool := (ownPort? scheme).isSome || scheme == "file"

/-- The port to connect to. -/
def effectivePort (u : Url) : Option Nat := u.port.or (ownPort? u.scheme)

/-- An address of a document on the web. -/
def isWeb (u : Url) : Bool := u.scheme == "http" || u.scheme == "https"

/-! ## Writing -/

/-- The text of a path. -/
def pathText : Path → List Char
  | .plain s => s.toList
  | .segments ss => ss.flatMap fun s => '/' :: s.toList

/-- Name and password with the sign that ends them. -/
def userText (u : Url) : List Char :=
  if u.username == "" && u.password.isNone then []
  else
    u.username.toList ++ (match u.password with | some p => ':' :: p.toList | none => []) ++ ['@']

/-- The part between two slashes and the path. -/
def authorityText (u : Url) : List Char :=
  u.userText ++ (match u.host with | some h => h.text | none => []) ++
    (match u.port with | some p => ':' :: digits p | none => [])

/-- What stands between the scheme and the path. Without an authority a path that starts with two
slashes gets a dot segment in front, so that what follows them does not look like a host. -/
def frontText (u : Url) : List Char :=
  if u.hasAuthority then '/' :: '/' :: u.authorityText
  else if ['/', '/'].isPrefixOf (pathText u.path) then ['/', '.']
  else []

/-- The text of an address. -/
def text (u : Url) : String :=
  String.ofList <|
    u.scheme.toList ++ ':' :: u.frontText ++ pathText u.path ++
    (match u.query with | some q => '?' :: q.toList | none => []) ++
    (match u.fragment with | some f => '#' :: f.toList | none => [])

/-! ## Reading -/

/-- A sign that separates the segments of a path. -/
def isSlash (special : Bool) (c : Char) : Bool := c == '/' || (special && c == '\\')

/-- A sign that ends a path. -/
def endsPath (c : Char) : Bool := c == '?' || c == '#'

/-- A sign that ends the part before the path. -/
def endsAuthority (special : Bool) (c : Char) : Bool := isSlash special c || endsPath c

/-- Splits a text at the first character of a kind, which goes to the second part. -/
def cut (p : Char → Bool) (cs : List Char) : List Char × List Char :=
  (cs.takeWhile (!p ·), cs.dropWhile (!p ·))

/-- The scheme and its colon off the front, in small letters. -/
def takeScheme (cs : List Char) : Option (String × List Char) :=
  match cut (· == ':') cs with
  | (c :: scheme, _ :: rest) =>
    if c.isAlpha && scheme.all (fun c => c.isAlphanum || c == '+' || c == '-' || c == '.') then
      some (String.ofList ((c :: scheme).map Char.toLower), rest)
    else none
  | _ => none

/-- A segment that means the folder itself. -/
def isDot (s : List Char) : Bool :=
  let s := s.map Char.toLower
  s == ['.'] || s == "%2e".toList

/-- A segment that means the folder above. -/
def isDoubleDot (s : List Char) : Bool :=
  let s := s.map Char.toLower
  s == ['.', '.'] || s == ".%2e".toList || s == "%2e.".toList || s == "%2e%2e".toList

/-- A segment that names a drive: a letter, and a colon or a bar. -/
def isDrive : List Char → Bool
  | [c, d] => c.isAlpha && (d == ':' || d == '|')
  | _ => false

/-- A segment as it is kept after those before. The drive that a path to a file starts with has a
colon. -/
def kept (file : Bool) (before : List String) (s : List Char) : String :=
  if file && before.isEmpty && isDrive s then String.ofList (s.take 1 ++ [':']) else String.ofList s

/-- A segment that looks like a drive, with or without a backslash and more after it. -/
def isLikeDrive (s : String) : Bool :=
  isDrive (s.toList.takeWhile (· != '\\'))

/-- The segments of the folder above. There is none above what looks like a drive. -/
def above (before : List String) : List String :=
  if before.head?.any isLikeDrive then before else before.tail

/-- Follows segments from those before, the last one first. A dot segment at the end leaves an
empty one. -/
def follow (file : Bool) (before : List String) : List (List Char) → List String
  | [] => before
  | [s] =>
    if isDoubleDot s then "" :: above before
    else if isDot s then "" :: before
    else kept file before s :: before
  | s :: t :: rest =>
    if isDoubleDot s then follow file (above before) (t :: rest)
    else if isDot s then follow file before (t :: rest)
    else follow file (kept file before s :: before) (t :: rest)

/-- Splits a path into its written segments. -/
def splitPath (special : Bool) (cs : List Char) : List (List Char) :=
  (cs.splitOnP (isSlash special)).map (Percent.encode Percent.inPath)

/-- The path that segments lead to from those before. -/
def resolve (special : Bool) (before : List String) (cs : List Char) : Path :=
  .segments (follow false before.reverse (splitPath special cs)).reverse

/-- Query and fragment after a path. -/
def readTail (special : Bool) (cs : List Char) : Option String × Option String :=
  let (query, fragment) := cut (· == '#') cs
  let forbidden := if special then Percent.inSpecialQuery else Percent.inQuery
  (match query with
    | '?' :: q => some (String.ofList (Percent.encode forbidden q))
    | _ => none,
   match fragment with
    | '#' :: f => some (String.ofList (Percent.encode Percent.inFragment f))
    | _ => none)

/-- An address with the query and the fragment that a text ends in. -/
def withTail (u : Url) (cs : List Char) : Url :=
  let (query, fragment) := readTail (isSpecial u.scheme) cs
  { u with query, fragment }

/-- Name and password before the last at-sign, and what follows it. -/
def takeUser (cs : List Char) : Option (List Char) × List Char :=
  match cs.reverse.span (· != '@') with
  | (after, _ :: user) => (some user.reverse, after.reverse)
  | (_, []) => (none, cs)

/-- The length of a host off the front: a colon within brackets does not end it. -/
def cutHost (inside : Bool) : List Char → List Char × List Char
  | [] => ([], [])
  | c :: cs =>
    if c == ':' && !inside then ([], c :: cs)
    else
      let (host, rest) := cutHost (if c == '[' then true else if c == ']' then false else inside) cs
      (c :: host, rest)

/-- The port after a host. Nothing stands for none, and so does the scheme's own. -/
def readPort? (scheme : String) : List Char → Option (Option Nat)
  | [] => some none
  | ':' :: ds =>
    if !ds.all Char.isDigit || 65535 < natural ds then none
    else if ds.isEmpty || ownPort? scheme == some (natural ds) then some none
    else some (some (natural ds))
  | _ => none

/-- An address whose authority follows, with its path and what comes after. A backslash ends a port
in any scheme. -/
def readPlace? (scheme : String) (cs : List Char) : Option Url := do
  let special := isSpecial scheme
  let (authority, rest) := cut (endsAuthority special) cs
  let (user, place) := takeUser authority
  let (hostText, portText) := cutHost false place
  let (portText, odd) := cut (· == '\\') portText
  let rest := if odd.isEmpty then rest else '/' :: odd ++ rest
  let host ← if special then (Host.readSpecial? hostText).map some else Host.readOther? hostText
  let (name, secret) := cut (· == ':') (user.getD [])
  if host.isNone && (!portText.isEmpty || !name.isEmpty || 1 < secret.length ||
      (user == some [] && !rest.isEmpty)) then none
  else do
    let port ← readPort? scheme portText
    let (path, tail) := cut endsPath rest
    let path := match special, path with
      | true, [] => .segments [""]
      | false, [] => .segments []
      | _, _ :: path => resolve special [] path
    let u : Url := {
      scheme, hasAuthority := true, host, port, path
      username := String.ofList (Percent.encode Percent.inUser name)
      password := match secret with
        | _ :: c :: cs => some (String.ofList (Percent.encode Percent.inUser (c :: cs)))
        | _ => none }
    some (u.withTail tail)

/-- An address as seen from a base of the same scheme. -/
def readFrom? (base : Url) (cs : List Char) : Option Url :=
  let special := isSpecial base.scheme
  let before := match base.path with
    | .segments ss => ss
    | .plain _ => []
  let clean := { base with query := none, fragment := none }
  match cs with
  | [] => some { base with fragment := none }
  | c :: rest =>
    if c == '?' then some (clean.withTail cs)
    else if c == '#' then some { base with fragment := (readTail special cs).2 }
    else if isSlash special c && (rest.head?.any (isSlash special)) then
      readPlace? base.scheme (rest.dropWhile (isSlash special))
    else if isSlash special c then
      let (path, tail) := cut endsPath rest
      some ({ clean with path := resolve special [] path }.withTail tail)
    else
      let (path, tail) := cut endsPath cs
      some ({ clean with path := resolve special before.dropLast path }.withTail tail)

/-- The path to a file without empty segments in front. -/
def filePath (ss : List String) : Path :=
  match ss.dropWhile (· == "") with
  | [] => .segments [""]
  | ss => .segments ss

/-- An address of a file on a host, from the path on. A path that starts with a drive is on no other
host. -/
def readFile (host : Option Host) (cs : List Char) : Url :=
  let (path, tail) := cut endsPath cs
  let ss := (follow true [] (splitPath true path)).reverse
  let host := if ss.head?.any (isDrive ·.toList) then none else host
  { scheme := "file", hasAuthority := true, host, path := filePath ss : Url }.withTail tail

/-- A text without a slash in front. -/
def withoutSlash (cs : List Char) : List Char :=
  if cs.head?.any (isSlash true) then cs.tail else cs

/-- An address of a file, from the host on. A drive in its place starts the path, and `localhost` is
this host. Where the host is left out, the slash before the path counts as a segment. -/
def readFilePlace? (cs : List Char) : Option Url :=
  let (hostText, rest) := cut (endsAuthority true) cs
  if hostText.isEmpty || isDrive hostText then some (readFile none cs)
  else (Host.readSpecial? hostText).map fun host =>
    if host == .name "localhost" then readFile none rest
    else readFile (some host) (withoutSlash rest)

/-- An address after its scheme, as seen from a base if there is one. -/
def readScheme? (base : Option Url) (scheme : String) (cs : List Char) : Option Url :=
  if scheme == "file" then
    match cs with
    | a :: b :: rest =>
      if isSlash true a && isSlash true b then readFilePlace? rest
      else some (readFile none (withoutSlash cs))
    | _ => some (readFile none (withoutSlash cs))
  else if isSpecial scheme then
    match base.filter fun b => b.scheme == scheme && (cs.takeWhile (isSlash true)).length < 2 with
    | some b => readFrom? b cs
    | none => readPlace? scheme (cs.dropWhile (isSlash true))
  else match cs with
    | '/' :: '/' :: rest => readPlace? scheme rest
    | '/' :: rest =>
      let (path, tail) := cut endsPath rest
      some ({ scheme, hasAuthority := false, host := none, path := resolve false [] path :
        Url }.withTail tail)
    | cs =>
      let (path, tail) := cut endsPath cs
      let path := .plain (String.ofList (Percent.encode Percent.isControl path))
      some ({ scheme, hasAuthority := false, host := none, path : Url }.withTail tail)

/-- Cuts control characters and blanks from the ends, and tabs and line ends from anywhere. -/
def clean (cs : List Char) : List Char :=
  let edge (c : Char) : Bool := c.toNat ≤ 0x20
  let cs := ((cs.dropWhile edge).reverse.dropWhile edge).reverse
  cs.filter fun c => c != '\t' && c != '\n' && c != '\r'

/-- Reads an address, as seen from a base if there is one. -/
def readWith (base : Option Url) (s : String) : Except UrlFault Url :=
  let cs := clean s.toList
  match takeScheme cs with
  | some (scheme, rest) =>
    match readScheme? base scheme rest with
    | some u => .ok u
    | none => .error .invalid
  | none =>
    match base with
    | none => .error .relative
    | some b =>
      match readFrom? b cs with
      | some u => .ok u
      | none => .error .invalid

/-- Reads an address. -/
def read (s : String) : Except UrlFault Url := readWith none s

/-- Reads an address as seen from this one. -/
def join (base : Url) (s : String) : Except UrlFault Url := readWith (some base) s

/-- The same place: host and port agree. -/
def samePlace (a b : Url) : Bool := a.host == b.host && a.effectivePort == b.effectivePort

/-- Name and password, decoded, if the address has them and they are text. -/
def user? (u : Url) : Option (String × Option String) :=
  let plain (s : String) : Option String :=
    (Utf8.decode? (Percent.decode (Utf8.encode s.toList))).map String.ofList
  match plain u.username with
  | none => none
  | some name =>
    let secret := u.password.bind plain
    if name == "" && secret.isNone then none else some (name, secret)

/-- The address without name and password. -/
def withoutUser (u : Url) : Url := { u with username := "", password := none }

end Url

end EgressWatch.Net
