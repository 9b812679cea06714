import ChainBroker.Http
import ChainBroker.Url.Basic

/-!
# Fetching from servers

The body behind a URL is fetched with one question, which is answered by the final response after
all redirects, or by the reason why there is none.
-/

namespace ChainBroker

namespace Fetch

/-- What comes of fetching. -/
inductive Outcome where
  /-- No response arrives. -/
  | unanswered
  /-- There are too many redirects, the last one to this URL. -/
  | redirected (url : String)
  /-- A response arrives, with its body if that is complete. -/
  | answered (status : Nat) (body : Option Bytes)
deriving DecidableEq, Repr

/-- Fetch what is behind a URL within so many milliseconds. -/
structure Call where
  url : Url
  /-- The time. -/
  timeout : Nat

/-- The questions to the servers and their answers. -/
abbrev interface : Interface := ⟨Call, fun _ => Outcome⟩

/-- Characters of hosts that cannot be part of a request. -/
def isUnsendable (c : Char) : Bool := ['"', '\x60', '\x7b', '\x7d'].contains c

/-- The longest URL that can be requested, in bytes. -/
def maxLength : Nat := 65534

/-- Whether the URL can be requested. -/
def isRequestable (url : Url) : Bool :=
  let host := match url.host with
    | some host => host.text
    | none => []
  !host.any isUnsendable && url.text.utf8ByteSize ≤ maxLength

/-- The body, or the reason why there is none. -/
def body (url : Url) : Outcome → Except String Bytes
  | .unanswered => .error ("error sending request for url (" ++ url.text ++ ")")
  | .redirected target => .error ("error following redirect for url (" ++ target ++ ")")
  | .answered status body =>
    if isSuccess status then
      match body with
      | some body => .ok body
      | none => .error "error decoding response body"
    else .error ("server responded with " ++ statusText status)

end Fetch

end ChainBroker
