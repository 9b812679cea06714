import ChainBroker.Contract.Workbench
import ChainBroker.Credentials
import ChainBroker.Settings.Basic

/-!
# Deploying contracts

The deploy tool is a script that a program runs as

    program script -c REQUEST -o OUTPUT CONTRACT

It reads from the request file where the node is and what the arguments of the constructor are, and
writes what it has done to the output file. Both files are temporary. Only an exit code of zero is a
success; what the tool prints is shown when it fails.
-/

namespace ChainBroker

/-- A contract that has been downloaded. -/
structure Contract where
  /-- Where it comes from. -/
  url : String
  /-- The arguments of its constructor. -/
  arguments : List String
  /-- The path of its file. -/
  path : String
deriving DecidableEq, Repr

/-- The tool that deploys contracts. -/
structure DeployTool where
  program : String
  /-- The script that the program runs. -/
  script : String
  /-- How long it may take, in milliseconds. -/
  timeout : Nat
deriving DecidableEq, Repr

namespace DeployTool

/-- The tool of the settings. -/
def ofSettings (s : ToolSettings) : DeployTool where
  program := s.effectiveProgram
  script := s.script
  timeout := s.effectiveTimeoutSeconds * 1000

/-- The first endpoint of a port. -/
def endpoint? (inst : Instance) (port : String) : Option Endpoint :=
  match inst.endpoints.get? port with
  | some (endpoint :: _) => some endpoint
  | _ => none

/-- The address under which the tool reaches the node. -/
def provider (inst : Instance) (endpoint : Endpoint) : String :=
  "http://" ++ inst.internalAddress ++ ":" ++ endpoint.port

/-- The content of the request file. -/
def request (provider : String) (arguments : List String) : Json :=
  .record
    [("provider", .text provider), ("password", .text ""), ("args", Json.texts arguments)]

/-- How the tool is called. -/
def command (tool : DeployTool) (requestPath outputPath contractPath : String) :
    Workbench.Command where
  program := tool.program
  arguments := [tool.script, "-c", requestPath, "-o", outputPath, contractPath]

/-- The failure that an outcome of the tool is, if it is one. -/
def outcomeFailure? (tool : DeployTool) : Workbench.Outcome → Option Failure
  | .notStarted cause => some (.toolFailed "not started" cause.message)
  | .timedOut => some (.toolTimedOut (tool.timeout / 1000))
  | .ended status stdout stderr =>
    if status = .code 0 then none
    else some (.toolFailed status.message (Utf8.decodeLossy stdout ++ Utf8.decodeLossy stderr))

/-- What the output file says. -/
def readOutput (path : String) : Except OsError Bytes → Except Failure Deployment
  | .error cause => .error (.outputUnreadable path cause)
  | .ok content =>
    (Json.decode Deployment.reader (Utf8.pieces content)).mapError fun cause =>
      .outputUnparseable cause (Utf8.decodeLossy content)

/-- Runs the tool on files that are there, and reads its output. -/
def runOn (tool : DeployTool) (contractPath requestPath outputPath : String) :
    Attempt Workbench.interface Failure Deployment := do
  let outcome ← Workbench.run (tool.command requestPath outputPath contractPath) tool.timeout
  match tool.outcomeFailure? outcome with
  | some failure => throw failure
  | none =>
    let content ← Workbench.ask (.read outputPath)
    Attempt.ofExcept id (readOutput outputPath content)

/-- Deploys a contract to the node behind a port of an instance. -/
def deploy (tool : DeployTool) (contract : Contract) (inst : Instance) (port : String) :
    Attempt Workbench.interface Failure Deployment := do
  match endpoint? inst port with
  | none => throw (.portMissing port)
  | some endpoint =>
    let content := (request (provider inst endpoint) contract.arguments).render .compact
    Workbench.withFile "deploy-request-" ".json" fun requestPath => do
      Attempt.ofExcept .file
        (← Workbench.ask (.write requestPath (Utf8.encode content)))
      Workbench.withFile "deploy-output-" ".json" fun outputPath =>
        tool.runOn contract.path requestPath outputPath

end DeployTool

end ChainBroker
