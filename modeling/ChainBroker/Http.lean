import ChainBroker.Dialogue
import ChainBroker.Json.Value
import ChainBroker.Text.Utf8

/-!
# Requests to servers

A request names a method and a target, and may carry a JSON body. It is answered by a response, or
not at all.
-/

namespace ChainBroker

/-- The phrases that go with status codes. -/
def statusPhrases : List (Nat × String) :=
  [(100, "Continue"), (101, "Switching Protocols"), (102, "Processing"), (200, "OK"),
    (201, "Created"), (202, "Accepted"), (203, "Non Authoritative Information"),
    (204, "No Content"), (205, "Reset Content"), (206, "Partial Content"), (207, "Multi-Status"),
    (208, "Already Reported"), (226, "IM Used"), (300, "Multiple Choices"),
    (301, "Moved Permanently"), (302, "Found"), (303, "See Other"), (304, "Not Modified"),
    (305, "Use Proxy"), (307, "Temporary Redirect"), (308, "Permanent Redirect"),
    (400, "Bad Request"), (401, "Unauthorized"), (402, "Payment Required"), (403, "Forbidden"),
    (404, "Not Found"), (405, "Method Not Allowed"), (406, "Not Acceptable"),
    (407, "Proxy Authentication Required"), (408, "Request Timeout"), (409, "Conflict"),
    (410, "Gone"), (411, "Length Required"), (412, "Precondition Failed"),
    (413, "Payload Too Large"), (414, "URI Too Long"), (415, "Unsupported Media Type"),
    (416, "Range Not Satisfiable"), (417, "Expectation Failed"), (418, "I'm a teapot"),
    (421, "Misdirected Request"), (422, "Unprocessable Entity"), (423, "Locked"),
    (424, "Failed Dependency"), (425, "Too Early"), (426, "Upgrade Required"),
    (428, "Precondition Required"), (429, "Too Many Requests"),
    (431, "Request Header Fields Too Large"), (451, "Unavailable For Legal Reasons"),
    (500, "Internal Server Error"), (501, "Not Implemented"), (502, "Bad Gateway"),
    (503, "Service Unavailable"), (504, "Gateway Timeout"), (505, "HTTP Version Not Supported"),
    (506, "Variant Also Negotiates"), (507, "Insufficient Storage"), (508, "Loop Detected"),
    (510, "Not Extended"), (511, "Network Authentication Required")]

/-- A status code with its phrase. -/
def statusText (status : Nat) : String :=
  toString status ++ " " ++ (statusPhrases.lookup status).getD "<unknown status code>"

/-- Whether a status tells of success. -/
def isSuccess (status : Nat) : Bool := 200 ≤ status && status < 300

namespace Http

/-- The methods of requests. -/
inductive Method where
  /-- Show something. -/
  | get
  /-- Do or make something. -/
  | post
  /-- Remove something. -/
  | delete
deriving DecidableEq, Repr

/-- The name of the method. -/
def Method.name : Method → String
  | get => "GET"
  | post => "POST"
  | delete => "DELETE"

/-- A request. -/
structure Request where
  method : Method
  /-- The path and the query. -/
  target : String
  body : Option Json

/-- What comes of a request. -/
inductive Outcome where
  /-- There is no connection to the server. -/
  | unreachable
  /-- The connection breaks before a response arrives. -/
  | broken
  /-- The connection breaks within the body of a response, of which this much has arrived. -/
  | cut (status : Nat) (received : Bytes)
  /-- No response arrives in time. -/
  | timedOut
  /-- A response arrives. -/
  | answered (status : Nat) (body : Bytes)
deriving DecidableEq, Repr

/-- Whether responses with a status have no body. -/
def isBodiless (status : Nat) : Bool := status == 204 || status == 304

/-- What comes of a request that is answered with a status and a body, all of it or a part. -/
def Outcome.ofResponse (status : Nat) (sent : Bytes) (isWhole : Bool) : Outcome :=
  if isBodiless status then .answered status []
  else if isWhole then .answered status sent
  else .cut status sent

/-- Requests and what comes of them. -/
abbrev interface : Interface := ⟨Request, fun _ => Outcome⟩

end Http

end ChainBroker
