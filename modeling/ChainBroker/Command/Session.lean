import ChainBroker.Broker
import ChainBroker.Catalog.Loader
import ChainBroker.Command.Line
import ChainBroker.Docker.Platform
import ChainBroker.Kubernetes.Platform
import ChainBroker.Settings.Document

/-!
# Sessions

A session carries out one command line: it reads the settings and checks them, loads the catalog,
and, unless only the catalog is asked for, connects to the selected platform and lets the broker do
the rest. It ends with a text to print, or with the first failure.

* `Session.run` is the dialogue of a session.
* `Ending.of` says what a user sees of its result.
-/

namespace ChainBroker

namespace Session

open Command (Line Request)

/-- The questions of a session. -/
inductive Call where
  /-- Read a file. -/
  | contents (path : String)
  /-- List a directory. -/
  | listing (path : String)
  /-- Get ready to speak to a platform. -/
  | connect (kind : PlatformKind)
  /-- A question to the Docker daemon. -/
  | docker (call : Docker.Call)
  /-- A question to a namespace of the cluster. -/
  | kubernetes (inNamespace : String) (call : Kubernetes.Call)
  /-- A question to servers and to the workbench. -/
  | contract (call : Contract.interface.Question)

/-- The answers that a session gets. -/
abbrev Call.Answer : Call → Type
  | .contents _ => Except OsError Bytes
  | .listing _ => Except OsError Listing
  | .connect _ => Except Failure Unit
  | .docker call => call.Answer
  | .kubernetes _ call => call.Answer
  | .contract call => Contract.interface.Answer call

/-- The questions of a session and their answers. -/
abbrev interface : Interface := ⟨Call, Call.Answer⟩

/-- Asks a question. -/
def ask (call : Call) : Attempt interface Failure call.Answer :=
  Attempt.question (I := interface) call

/-! ## Requests -/

/-- A JSON document for a reader, on lines of its own. -/
def printed (document : Json) : String := document.render .indented ++ "\n"

/-- Lets the broker do what is asked for; gives the text to print. -/
def perform (catalog : Catalog) : Request → Attempt Broker.interface Failure String
  | .catalog => return printed (.list (catalog.offerings.map Offering.toJson))
  | .provision serviceId planId instanceId => do
    Broker.provision catalog serviceId planId instanceId
    return "✅ Provisioned " ++ instanceId ++ "\n"
  | .deprovision serviceId planId instanceId => do
    Broker.deprovision catalog serviceId planId instanceId
    return "✅ Deprovisioned " ++ instanceId ++ "\n"
  | .bind serviceId planId instanceId bindingId contractUrl contractArgs parameters => do
    let payload := Utf8.encode (BindRequest.payload contractUrl contractArgs parameters)
    let credentials ← Broker.bind catalog serviceId planId instanceId bindingId payload
    return printed credentials.toJson
  | .unbind instanceId bindingId => do
    Broker.unbind instanceId bindingId
    return ""
  | .update instanceId => do
    Broker.update instanceId
    return ""
  | .lastOperation instanceId operation => do
    Broker.lastOperation instanceId operation
    return ""

/-! ## Platforms -/

/-- Passes questions to a platform and to its surroundings on. -/
def relay {I : Interface} (toPlatform : (call : I.Question) → Dialogue interface (I.Answer call)) :
    (call : (Broker.Surroundings I).Question) →
      Dialogue interface ((Broker.Surroundings I).Answer call)
  | .inl call => toPlatform call
  | .inr call => Dialogue.question (I := interface) (.contract call)

/-- Connects to the Docker daemon and lets the broker work with it. -/
def withDocker (env : Environment) (settings : Settings)
    (work : Attempt Broker.interface Failure String) : Attempt interface Failure String := do
  let docker ← Attempt.ofExcept id settings.requireDocker
  Attempt.ofExcept id (← ask (.connect .docker))
  let setup : Broker.Setup Docker.interface :=
    { platform := Docker.platform (docker.effectiveInternalAddress env) docker.externalAddress
      tool := DeployTool.ofSettings settings.tool }
  (setup.run work).interpret (relay fun call => Dialogue.question (I := interface) (.docker call))

/-- Connects to the cluster and lets the broker work with it. -/
def withKubernetes (settings : Settings) (work : Attempt Broker.interface Failure String) :
    Attempt interface Failure String := do
  let kubernetes ← Attempt.ofExcept id settings.requireKubernetes
  Attempt.ofExcept id (← ask (.connect .kubernetes))
  let setup : Broker.Setup Kubernetes.interface :=
    { platform := Kubernetes.platform kubernetes.host, tool := DeployTool.ofSettings settings.tool }
  (setup.run work).interpret <| relay fun call =>
    Dialogue.question (I := interface) (.kubernetes kubernetes.effectiveNamespace call)

/-- Lets the broker work with the selected platform. -/
def withPlatform (env : Environment) (settings : Settings)
    (work : Attempt Broker.interface Failure String) : Attempt interface Failure String :=
  match settings.platform with
  | .docker => withDocker env settings work
  | .kubernetes => withKubernetes settings work

/-! ## Sessions -/

/-- Reads and checks the settings in a file. -/
def loadSettings (env : Environment) (path : String) : Attempt interface Failure Settings := do
  let settings ← Attempt.ofExcept id (Settings.ofFile env path (← ask (.contents path)))
  Attempt.ofExcept id settings.validate
  return settings

/-- Loads the catalog of a directory. -/
def loadCatalog (freshIds : Catalog.FreshIds) (dir : String) :
    Attempt interface Failure Catalog := do
  let listed ← if dir = "" then pure (.error .noSuchFile) else ask (.listing dir)
  Attempt.ofExcept id (Catalog.load dir freshIds listed)

/-- Carries out a command line; gives the text to print. -/
def run (env : Environment) (freshIds : Catalog.FreshIds) (line : Line) :
    Attempt interface Failure String := do
  let settings ← loadSettings env line.config
  let catalog ← loadCatalog freshIds line.services
  match line.request with
  | .catalog => return printed (.list (catalog.offerings.map Offering.toJson))
  | request => withPlatform env settings (perform catalog request)

end Session

/-- What a user sees of a session. -/
structure Ending where
  exitCode : Nat
  /-- What is printed. -/
  output : String
  /-- What is printed as an error. -/
  complaint : String
deriving DecidableEq, Repr

/-- What a user sees of the result of a session. -/
def Ending.of : Except Failure String → Ending
  | .ok output => ⟨0, output, ""⟩
  | .error failure =>
    { exitCode := failure.severity.exitCode, output := ""
      complaint := "❌ " ++ failure.userMessage ++ "\n💡 建議: " ++ failure.advice ++ "\n" }

end ChainBroker
