import EgressWatch.Text.Digits

/-!
# Status codes

The numbers in which a response says in short how it went, and their standard phrases (`phrase?`).
Most numbers have none, and an error about one of these says so (`text`), unless the response came
with a phrase of its own (`sentText`).

A request has failed if its number is one of a client's error or of a server's (`isClientError`,
`isServerError`), that is, from 400 up to and including 599. All other numbers count as success,
larger ones too. Of those only five lead elsewhere (`isRedirect`).
-/

namespace EgressWatch.Net.StatusCode

/-- The standard phrase of a status. -/
def phrase? : Nat → Option String
  | 100 => some "Continue"
  | 101 => some "Switching Protocols"
  | 102 => some "Processing"
  | 103 => some "Early Hints"
  | 200 => some "OK"
  | 201 => some "Created"
  | 202 => some "Accepted"
  | 203 => some "Non Authoritative Information"
  | 204 => some "No Content"
  | 205 => some "Reset Content"
  | 206 => some "Partial Content"
  | 207 => some "Multi-Status"
  | 208 => some "Already Reported"
  | 226 => some "IM Used"
  | 300 => some "Multiple Choices"
  | 301 => some "Moved Permanently"
  | 302 => some "Found"
  | 303 => some "See Other"
  | 304 => some "Not Modified"
  | 305 => some "Use Proxy"
  | 307 => some "Temporary Redirect"
  | 308 => some "Permanent Redirect"
  | 400 => some "Bad Request"
  | 401 => some "Unauthorized"
  | 402 => some "Payment Required"
  | 403 => some "Forbidden"
  | 404 => some "Not Found"
  | 405 => some "Method Not Allowed"
  | 406 => some "Not Acceptable"
  | 407 => some "Proxy Authentication Required"
  | 408 => some "Request Timeout"
  | 409 => some "Conflict"
  | 410 => some "Gone"
  | 411 => some "Length Required"
  | 412 => some "Precondition Failed"
  | 413 => some "Payload Too Large"
  | 414 => some "URI Too Long"
  | 415 => some "Unsupported Media Type"
  | 416 => some "Range Not Satisfiable"
  | 417 => some "Expectation Failed"
  | 418 => some "I'm a teapot"
  | 421 => some "Misdirected Request"
  | 422 => some "Unprocessable Entity"
  | 423 => some "Locked"
  | 424 => some "Failed Dependency"
  | 425 => some "Too Early"
  | 426 => some "Upgrade Required"
  | 428 => some "Precondition Required"
  | 429 => some "Too Many Requests"
  | 431 => some "Request Header Fields Too Large"
  | 451 => some "Unavailable For Legal Reasons"
  | 500 => some "Internal Server Error"
  | 501 => some "Not Implemented"
  | 502 => some "Bad Gateway"
  | 503 => some "Service Unavailable"
  | 504 => some "Gateway Timeout"
  | 505 => some "HTTP Version Not Supported"
  | 506 => some "Variant Also Negotiates"
  | 507 => some "Insufficient Storage"
  | 508 => some "Loop Detected"
  | 510 => some "Not Extended"
  | 511 => some "Network Authentication Required"
  | _ => none

/-- The phrase for a status that has no standard phrase. -/
def unknownPhrase : String := "<unknown status code>"

/-- A status with its standard phrase. -/
def text (status : Nat) : String :=
  String.ofList (Text.digits status) ++ " " ++ (phrase? status).getD unknownPhrase

/-- A status with the phrase that was sent along with it, if one was sent. -/
def sentText (status : Nat) (phrase : String) : String :=
  if phrase == "" then text status else String.ofList (Text.digits status) ++ " " ++ phrase

/-- The request was at fault. -/
def isClientError (status : Nat) : Bool := 400 ≤ status && status < 500

/-- The server was at fault. -/
def isServerError (status : Nat) : Bool := 500 ≤ status && status < 600

/-- The document is elsewhere. -/
def isRedirect (status : Nat) : Bool := [301, 302, 303, 307, 308].contains status

end EgressWatch.Net.StatusCode
