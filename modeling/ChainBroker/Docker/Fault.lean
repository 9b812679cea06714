import ChainBroker.Json.Fault

/-!
# Failures of the Docker daemon
-/

namespace ChainBroker.Docker

/-- Why a call to the Docker daemon fails. -/
inductive Fault where
  /-- The daemon answers with an error status. -/
  | refused (status : Nat) (reason : String)
  /-- A progress line of a pull tells of an error. -/
  | pullFailed
  /-- The daemon does not answer in time. -/
  | timedOut
  /-- The daemon's socket does not exist. -/
  | noSocket (path : String)
  /-- There is no connection to the daemon. -/
  | unreachable
  /-- The connection breaks. -/
  | disconnected
  /-- The connection breaks within an answer. -/
  | cut
  /-- The report on a pull ends inside an item. -/
  | unfinished
  /-- The answer cannot be read. -/
  | unreadable (cause : Json.Fault)
deriving DecidableEq, Repr

/-- The failure in words. -/
def Fault.message : Fault → String
  | .refused status reason =>
    "Docker responded with status code " ++ toString status ++ ": " ++ reason
  | .pullFailed => "Docker stream error"
  | .timedOut => "Timeout error"
  | .noSocket path => "Socket not found: " ++ path
  | .unreachable => "Error in the hyper legacy client: client error (Connect)"
  | .disconnected => "Error in the hyper legacy client: client error (SendRequest)"
  | .cut => "error reading a body from connection"
  | .unfinished => "bytes remaining on stream"
  | .unreadable (.misfit reason) => "Failed to deserialize JSON: " ++ reason.message
  | .unreadable cause => cause.message

end ChainBroker.Docker
