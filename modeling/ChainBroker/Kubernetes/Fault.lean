import ChainBroker.Json.Fault
import ChainBroker.Text.Quoted

/-!
# Failures of the Kubernetes API
-/

namespace ChainBroker.Kubernetes

/-- What the API says of a request that it refuses. -/
structure Refusal where
  /-- The outcome, usually `Failure`. -/
  status : String
  /-- The reason in words. -/
  message : String
  /-- The reason as a word. -/
  reason : String
  /-- The status code. -/
  code : Nat
deriving DecidableEq, Repr

/-- Why a call to the Kubernetes API fails. -/
inductive Fault where
  /-- The API refuses. -/
  | refused (refusal : Refusal)
  /-- The name of the object cannot be part of a request. -/
  | badTarget (reason : String)
  /-- The request gets no answer. -/
  | unreachable (reason : String)
  /-- The answer cannot be read. -/
  | unreadable (cause : Json.Fault)
deriving DecidableEq, Repr

/-- The failure in words. -/
def Fault.message : Fault → String
  | .refused r =>
    "ApiError: " ++ r.message ++ ": " ++ r.reason ++ " (ErrorResponse \x7b status: " ++
      Text.quoted r.status ++ ", message: " ++ Text.quoted r.message ++ ", reason: " ++
      Text.quoted r.reason ++ ", code: " ++ toString r.code ++ " \x7d)"
  | .badTarget reason => "Failed to build request: " ++ reason
  | .unreachable reason => "ServiceError: client error (" ++ reason ++ ")"
  | .unreadable cause => "Error deserializing response: " ++ cause.message

end ChainBroker.Kubernetes
