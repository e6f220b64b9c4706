import EgressWatch.Net.Charset
import EgressWatch.Net.Exchange
import EgressWatch.Net.StatusCode
import EgressWatch.Text.Base64

/-!
# Fetching documents

A fetch sends a request and follows up to ten redirects, all on the same route (`fetch`, `follow`).
A redirect to another host or port loses the credentials. One limit of time covers it all, the body
included. What is fetched is a `Page`, whose body may still turn out to break off or to come too
late (`Page.body`).

Before anything is sent the address is looked at (`prepare`). A name and a password in it are not
part of the request but go with it as credentials, before those made of a token. An address that
names no place on the web cannot be asked, nor can one whose host has signs that requests do not
admit, or one that is too long (`canBeAsked`); the same goes for where a redirect leads.
-/

namespace EgressWatch.Net

open Time

/-- Why a document could not be fetched. -/
inductive FetchFault where
  /-- The address or a header cannot be read. -/
  | malformedRequest
  /-- The address names no place on the web, or none that a request can be sent to. -/
  | unsupported (url : Url)
  /-- No response came, or it came too late. -/
  | unanswered (url : Url)
  | tooManyRedirects (url : Url)
  /-- The status tells of an error. -/
  | rejected (status : Nat) (phrase : String) (url : Url)
  /-- The body broke off, came too late or cannot be read. -/
  | brokenBody
  deriving DecidableEq

namespace FetchFault

/-- A fault with the address at which it arose. -/
def atUrl (what : String) (url : Url) : String := what ++ " for url (" ++ url.text ++ ")"

/-- The fault in words. -/
def message : FetchFault → String
  | malformedRequest => "builder error"
  | unsupported url => atUrl "builder error" url
  | unanswered url => atUrl "error sending request" url
  | tooManyRedirects url => atUrl "error following redirect" url
  | rejected status phrase url =>
    atUrl ((if StatusCode.isClientError status then "HTTP status client error (" else
      "HTTP status server error (") ++ StatusCode.sentText status phrase ++ ")") url
  | brokenBody => "error decoding response body"

end FetchFault

/-! ## Before sending -/

/-- A text that may stand in a header. -/
def isHeaderText (s : String) : Bool :=
  s.toList.all fun c => c == '\t' || (0x20 ≤ c.toNat && c.toNat != 0x7F)

/-- Credentials made of a name and a password. -/
def basicCredentials (user : String × Option String) : String :=
  "Basic " ++ String.ofList
    (Text.Base64.encode (Text.Utf8.encode (user.1 ++ ":" ++ user.2.getD "").toList))

/-- Credentials made of a token. -/
def bearerCredentials (token : String) : String := "Bearer " ++ token

/-- The most characters that the address in a request may have. -/
def maxAddress : Nat := 65534

/-- A sign that the host of a request may not have. -/
def isOddSign (c : Char) : Bool := ['"', '\x60', '\x7b', '\x7d'].contains c

/-- A request can be sent to this address. -/
def canBeAsked (url : Url) : Bool :=
  url.isWeb && !(url.host.map Host.text).any (·.any isOddSign) &&
    url.text.utf8ByteSize ≤ maxAddress

/-- The address to ask and the credentials to show. -/
def prepare (address : String) (token : Option String) : Except FetchFault (Url × List String) :=
  match Url.read address with
  | .error _ => .error .malformedRequest
  | .ok url =>
    if url.host.isNone then .error (.unsupported url)
    else
      let bearer := (token.map bearerCredentials).toList
      if !bearer.all isHeaderText then .error .malformedRequest
      else
        let basic := (url.user?.map basicCredentials).toList
        let url := if url.user?.isSome then url.withoutUser else url
        if canBeAsked url then .ok (url, basic ++ bearer) else .error (.unsupported url)

/-! ## Until the headers -/

/-- A document whose headers have arrived. -/
structure Page where
  url : Url
  response : Response
  /-- How long it took until the headers had arrived, redirects included. -/
  waited : Span
  deriving DecidableEq

/-- Where a response says that the document is, if it says so. -/
def redirect? (url : Url) (r : Response) : Option Url :=
  if StatusCode.isRedirect r.status then
    (r.header? "location").bind fun location => (url.join location).toOption
  else none

/-- How many redirects are followed. -/
def maxRedirects : Nat := 10

/-- Asks for a document after some redirects and some time, with so many redirects left. -/
def follow (route : Route) (limit : Span) :
    Nat → Nat → Url → List String → Span → Action (Except FetchFault Page)
  | left, hops, url, authorization, waited => do
    match ← exchange { route, url, authorization, hops } with
    | .lost _ => return .error (.unanswered url)
    | .response r =>
      let waited := waited + r.wait
      if limit ≤ waited then return .error (.unanswered url)
      match redirect? url r with
      | none => return .ok { url, response := r, waited }
      | some next =>
        match left with
        | 0 => return .error (.tooManyRedirects url)
        | left + 1 =>
          if !canBeAsked next then return .error (.unsupported next)
          follow route limit left (hops + 1) next
            (if url.samePlace next then authorization else []) waited

/-- Asks for a document. -/
def fetch (route : Route) (address : String) (token : Option String) (limit : Span) :
    Action (Except FetchFault Page) :=
  match prepare address token with
  | .error fault => return .error fault
  | .ok (url, authorization) => follow route limit maxRedirects 0 url authorization 0

namespace Page

/-- A page whose status tells of no error. -/
def accepted (p : Page) : Except FetchFault Page :=
  if StatusCode.isClientError p.response.status || StatusCode.isServerError p.response.status then
    .error (.rejected p.response.status p.response.phrase p.url)
  else .ok p

end Page

/-! ## The body -/

/-- A body as far as it arrived in time. -/
structure Body where
  chunks : List (List UInt8)
  /-- All of it arrived. -/
  whole : Bool
  /-- How long it took from the headers to the end. -/
  elapsed : Span
  deriving DecidableEq

/-- Takes chunks in as long as they come within the time left. -/
def arriving (left elapsed : Span) (complete : Bool) : List Chunk → Body
  | [] => ⟨[], complete, elapsed⟩
  | c :: cs =>
    let elapsed := elapsed + c.wait
    if left ≤ elapsed then ⟨[], false, elapsed⟩
    else
      let rest := arriving left elapsed complete cs
      { rest with chunks := c.bytes :: rest.chunks }

namespace Page

/-- The body of a page, of which the headers and the body are to arrive within a limit of time. -/
def body (p : Page) (limit : Span) : Body :=
  arriving (limit - p.waited) 0 p.response.complete p.response.chunks

/-- All bytes of the body. -/
def bytes (p : Page) (limit : Span) : Except FetchFault (List UInt8) :=
  let b := p.body limit
  if b.whole then .ok b.chunks.flatten else .error .brokenBody

/-- The body as text. -/
def text (p : Page) (limit : Span) : Except FetchFault String :=
  (p.bytes limit).map (bodyText (p.response.header? "content-type"))

end Page

end EgressWatch.Net
