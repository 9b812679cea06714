import ChainBroker.Docker.Fault
import ChainBroker.Kubernetes.Fault
import ChainBroker.OsError
import ChainBroker.Port

/-!
# Failures

Everything that can go wrong in a call of the broker or at its start, what kind of failure it is,
how serious it is, what to do about it, and how it is put into words.

The kind of a failure says whose matter it is, and the severity and the exit code follow from the
kind alone.
-/

namespace ChainBroker

/-- Why a call of the broker, or its start, fails. -/
inductive Failure where
  /-- The catalog has no such service. -/
  | serviceNotFound (serviceId : String)
  /-- The service has no such plan. -/
  | planNotFound (planId : String)
  /-- A bind does not say which contract to deploy. -/
  | contractUrlMissing
  /-- The payload of a bind cannot be read. -/
  | invalidBindRequest (cause : Json.Fault)
  /-- The instance has no endpoint for a port. -/
  | portMissing (port : String)
  /-- The contract cannot be downloaded. -/
  | downloadFailed (url : String) (reason : String)
  /-- The deploy tool does not succeed. -/
  | toolFailed (status : String) (output : String)
  /-- The deploy tool does not end in time. -/
  | toolTimedOut (seconds : Nat)
  /-- The output of the deploy tool cannot be opened. -/
  | outputUnreadable (path : String) (cause : OsError)
  /-- The output of the deploy tool is not what it should be. -/
  | outputUnparseable (cause : Json.Fault) (content : String)
  /-- The Docker daemon fails. -/
  | docker (cause : Docker.Fault)
  /-- The Kubernetes API fails. -/
  | kubernetes (cause : Kubernetes.Fault)
  /-- A port of a plan is no port. -/
  | invalidPort (spec : String) (reason : String)
  /-- A file cannot be used. -/
  | file (cause : OsError)
  /-- A value cannot be written as JSON, or read from it. -/
  | serialization (cause : Json.Fault)
  /-- The settings cannot be opened. -/
  | settings (reason : String)
  /-- The settings cannot be read. -/
  | settingsInvalid (field : String) (reason : String)
  /-- A setting has a value that is not allowed. -/
  | settingRejected (field : String) (value : String) (reason : String)
  /-- A setting that is needed is missing. -/
  | settingMissing (field : String)
  /-- The service definitions cannot be used. -/
  | catalog (reason : String)
deriving DecidableEq, Repr

namespace Failure

/-- The failure of a plan whose port texts do not all denote ports. -/
def ofPort (e : String × Port.Defect) : Failure := .invalidPort e.1 e.2.message

/-- Whose matter a failure is. -/
inductive Kind where
  /-- The caller asks for something that cannot be. -/
  | input
  /-- The container platform fails. -/
  | backend
  /-- The deployment of a contract fails. -/
  | deploy
  /-- The broker is not set up properly. -/
  | configuration
  /-- The machine fails. -/
  | system
deriving DecidableEq, Repr

/-- How serious a failure is. -/
inductive Severity where
  /-- The request was wrong. -/
  | low
  /-- Another try may succeed. -/
  | medium
  /-- The set-up has to be mended. -/
  | high
  /-- The machine has to be looked at. -/
  | critical
deriving DecidableEq, Repr

/-- The kind of a failure. -/
def kind : Failure → Kind
  | serviceNotFound _ | planNotFound _ | contractUrlMissing | invalidBindRequest _ => .input
  | docker _ | kubernetes _ | invalidPort _ _ | portMissing _ => .backend
  | downloadFailed _ _ | toolFailed _ _ | toolTimedOut _ | outputUnreadable _ _
  | outputUnparseable _ _ => .deploy
  | settings _ | settingsInvalid _ _ | settingRejected _ _ _ | settingMissing _ | catalog _ =>
    .configuration
  | file _ | serialization _ => .system

/-- The severity of a kind of failure. -/
def Kind.severity : Kind → Severity
  | input => .low
  | backend | deploy => .medium
  | configuration => .high
  | system => .critical

/-- The exit code that tells of a severity. -/
def Severity.exitCode : Severity → Nat
  | low => 4
  | medium => 2
  | high => 1
  | critical => 3

/-- The severity of a failure. -/
def severity (f : Failure) : Severity := f.kind.severity

/-- The failure in words. -/
def message : Failure → String
  | serviceNotFound id => "service not found: " ++ id
  | planNotFound id => "plan not found: " ++ id
  | contractUrlMissing => "contract_url not found"
  | invalidBindRequest cause => "invalid bind parameters: " ++ cause.message
  | portMissing port => "Port Bindings do not have " ++ port ++ " port mapping"
  | downloadFailed url reason => "failed to download contract from " ++ url ++ ": " ++ reason
  | toolFailed status output => "deploy tool exited with " ++ status ++ ": " ++ output
  | toolTimedOut seconds => "deploy tool did not finish within " ++ toString seconds ++ "s"
  | outputUnreadable path cause =>
    "deploy output " ++ path ++ " is unreadable: " ++ cause.message
  | outputUnparseable cause content =>
    "deploy output is not valid node info: " ++ cause.message ++ " (content: " ++ content ++ ")"
  | docker cause => cause.message
  | kubernetes cause => cause.message
  | invalidPort spec reason => "invalid port spec '" ++ spec ++ "': " ++ reason
  | file cause => "IO error: " ++ cause.message
  | serialization cause => "Serialization error: " ++ cause.message
  | settings reason => "Configuration error: " ++ reason
  | settingsInvalid field reason =>
    "Configuration validation error in " ++ field ++ ": " ++ reason
  | settingRejected field value reason =>
    "Invalid value '" ++ value ++ "' for " ++ field ++ ": " ++ reason
  | settingMissing field => "Missing required configuration: " ++ field
  | catalog reason => "Catalog error: " ++ reason

/-- The failure in words for the one who called. -/
def userMessage (f : Failure) : String :=
  let opening := match f.kind with
    | .input => "Request rejected: "
    | .backend => "Container platform error: "
    | .deploy => "Contract deployment failed: "
    | .configuration => "Configuration problem: "
    | .system => "System error: "
  opening ++ f.message

/-- What to do about the failure. -/
def advice : Failure → String
  | serviceNotFound _ | planNotFound _ => "Check the service and plan ids against the catalog"
  | contractUrlMissing | invalidBindRequest _ =>
    "Pass bind parameters as \x7b\"contract_url\": \"...\", \"contract_args\": [...]\x7d"
  | portMissing _ =>
    "Make sure the instance was provisioned with the plan's ports and is still running"
  | downloadFailed _ _ => "Verify the contract URL is reachable from the broker"
  | toolFailed _ _ | toolTimedOut _ =>
    "Inspect the deploy tool output and the node's availability"
  | outputUnreadable _ _ | outputUnparseable _ _ =>
    "The deploy tool finished but did not write valid node info; check its version"
  | docker _ | kubernetes _ | invalidPort _ _ =>
    "Check the container platform; a failed call may need a deprovision to clean up"
  | settings _ | settingsInvalid _ _ | settingRejected _ _ _ | settingMissing _ =>
    "Fix the broker configuration file"
  | catalog _ => "Fix the service definition files"
  | file _ | serialization _ => "Check disk space and permissions of the temp directory"

end Failure

end ChainBroker
