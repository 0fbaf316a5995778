import MatchingDecomp.Decimal.Digits
import MatchingDecomp.Text.Utf8
import MatchingDecomp.Text.Word

/-!
# Requests over HTTP

A request is posted to an endpoint. Three things can go wrong before anybody sees it: the endpoint
is no web address, a header cannot be sent, or nobody listens there. A service that sees a request
may answer, break off, or stay silent.
-/

namespace MatchingDecomp.Http

/-- A request with a JSON body. -/
structure Request where
  endpoint : String
  authorization : Option String
  body : String
  deriving DecidableEq, Repr

/-- What a service does with a request. -/
inductive Reply where
  | answer (status : Nat) (body : Bytes)
  /-- An answer whose body ends before its announced length. -/
  | cutShort (status : Nat)
  /-- The connection is closed without an answer. -/
  | hangUp
  /-- No answer ever comes. -/
  | silence
  deriving DecidableEq, Repr

/-- A service. -/
abbrev Service := Request → Reply

/-- What came of an attempt to post a request. -/
inductive Delivery where
  /-- The request cannot be written down. -/
  | unsendable
  /-- Nobody listens at the endpoint. -/
  | refused
  | replied (reply : Reply)
  deriving DecidableEq, Repr

/-! ### Addresses and headers -/

/-- The text after a scheme, in any case of letters. -/
def afterScheme? (scheme cs : List Char) : Option (List Char) :=
  if (cs.take scheme.length).map Text.asciiLower = scheme then some (cs.drop scheme.length)
  else none

/-- The host that a web address names, and what is asked of it. -/
def address? (endpoint : String) : Option (String × String) := do
  let cs := endpoint.toList
  let rest ← (afterScheme? "http://".toList cs) <|> (afterScheme? "https://".toList cs)
  let inHost := fun c => c != '/' && c != '?' && c != '#'
  let host := rest.takeWhile inHost
  if host.isEmpty then none
  else
    let target := (rest.dropWhile inHost).takeWhile (· != '#')
    let target := if target.head? == some '/' then target else '/' :: target
    some (String.ofList host, String.ofList target)

/-- Whether a text can be the value of a header: no control characters but the tab. -/
def isHeaderValue (s : String) : Bool :=
  s.toList.all fun c => c == '\t' || (32 ≤ c.toNat && c.toNat != 127)

/-- The first line of a request. -/
def Request.line (r : Request) : String :=
  "POST " ++ ((address? r.endpoint).map Prod.snd).getD "/" ++ " HTTP/1.1"

/-! ### Status lines -/

/-- The reason phrases of the standard. -/
def reasons : List (Nat × String) :=
  [(100, "Continue"), (101, "Switching Protocols"), (102, "Processing"),
    (200, "OK"), (201, "Created"), (202, "Accepted"), (203, "Non Authoritative Information"),
    (204, "No Content"), (205, "Reset Content"), (206, "Partial Content"), (207, "Multi-Status"),
    (208, "Already Reported"), (226, "IM Used"),
    (300, "Multiple Choices"), (301, "Moved Permanently"), (302, "Found"), (303, "See Other"),
    (304, "Not Modified"), (305, "Use Proxy"), (307, "Temporary Redirect"),
    (308, "Permanent Redirect"),
    (400, "Bad Request"), (401, "Unauthorized"), (402, "Payment Required"), (403, "Forbidden"),
    (404, "Not Found"), (405, "Method Not Allowed"), (406, "Not Acceptable"),
    (407, "Proxy Authentication Required"), (408, "Request Timeout"), (409, "Conflict"),
    (410, "Gone"), (411, "Length Required"), (412, "Precondition Failed"),
    (413, "Payload Too Large"), (414, "URI Too Long"), (415, "Unsupported Media Type"),
    (416, "Range Not Satisfiable"), (417, "Expectation Failed"), (418, "I'm a teapot"),
    (421, "Misdirected Request"), (422, "Unprocessable Entity"), (423, "Locked"),
    (424, "Failed Dependency"), (426, "Upgrade Required"), (428, "Precondition Required"),
    (429, "Too Many Requests"), (431, "Request Header Fields Too Large"),
    (451, "Unavailable For Legal Reasons"),
    (500, "Internal Server Error"), (501, "Not Implemented"), (502, "Bad Gateway"),
    (503, "Service Unavailable"), (504, "Gateway Timeout"), (505, "HTTP Version Not Supported"),
    (506, "Variant Also Negotiates"), (507, "Insufficient Storage"), (508, "Loop Detected"),
    (510, "Not Extended"), (511, "Network Authentication Required")]

/-- A status with its reason phrase. -/
def statusText (status : Nat) : String :=
  Decimal.text status ++ " " ++ (reasons.lookup status).getD "<unknown status code>"

/-- Whether an answer with a status carries a body at all. -/
def carriesBody (status : Nat) : Bool :=
  200 ≤ status && status != 204 && status != 304

/-- Whether a status reports success. -/
def isSuccess (status : Nat) : Bool :=
  200 ≤ status && status < 300

end MatchingDecomp.Http
