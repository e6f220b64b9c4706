import EgressWatch.Text.Percent

/-!
# Requests to the API

A request as it comes to a handler: method, target and the length of the body, of which nothing else
matters. Path and query are cut out of the target (`splitTarget`), of which a scheme and a host in
front of the path are no part (`withoutHost`), nor is what stands after a number sign.

The query is a list of names with values (`formPairs`), read as forms are: parts between ampersands,
a plus for a blank, and percent-encoded bytes, which are text or are replaced (`formText`).

Nothing is refused here. `Request.values` are all values under a name, and whether it may stand more
than once is for the handlers to say.
-/

namespace EgressWatch.Api

open Text

/-- A request. -/
structure Request where
  method : String
  target : String
  /-- The bytes of the body. -/
  bodyLength : Nat := 0
  deriving DecidableEq, Repr

/-- Splits a text at the first of a character, which goes to neither part. -/
def splitFirst (c : Char) (cs : List Char) : List Char × Option (List Char) :=
  match cs.span (· != c) with
  | (front, _ :: tail) => (front, some tail)
  | (front, []) => (front, none)

/-- A character of a scheme. -/
def isSchemeSign (c : Char) : Bool := c.isAlphanum || ['+', '-', '.', '~'].contains c

/-- A target without scheme and host. -/
def withoutHost (cs : List Char) : List Char :=
  match cs.span (· != ':') with
  | (scheme, ':' :: '/' :: '/' :: rest) =>
    if !scheme.isEmpty && scheme.all isSchemeSign then
      match rest.dropWhile fun c => c != '/' && c != '?' && c != '#' with
      | '/' :: path => '/' :: path
      | other => '/' :: other
    else cs
  | _ => cs

/-- The path and the query of a target. -/
def splitTarget (target : String) : String × List Char :=
  let (whole, _) := splitFirst '#' (withoutHost target.toList)
  let (path, query) := splitFirst '?' whole
  (String.ofList path, query.getD [])

/-- A name or a value in a form. -/
def formText (cs : List Char) : String :=
  let spaced := cs.map fun c => if c = '+' then ' ' else c
  String.ofList (Utf8.decode (Percent.decode (Utf8.encode spaced)))

/-- The names and values of a form. A name alone has the empty value. -/
def formPairs (cs : List Char) : List (String × String) :=
  ((cs.splitOn '&').filter (!·.isEmpty)).map fun pair =>
    let (name, value) := splitFirst '=' pair
    (formText name, formText (value.getD []))

namespace Request

/-- The path that a request names. -/
def path (r : Request) : String := (splitTarget r.target).1

/-- The values of the query under a name. -/
def values (r : Request) (name : String) : List String :=
  ((formPairs (splitTarget r.target).2).filter fun p => p.1 == name).map (·.2)

end Request

end EgressWatch.Api
