import ChainBroker.Contract.Deployment
import ChainBroker.Contract.Download
import ChainBroker.Platform

/-!
# The broker

The broker looks up what is asked for in the catalog and leaves the work to others: a platform that
runs instances, servers that hold contracts, and a tool that deploys them. To all of these it puts
questions of its own (`Broker.Call`), so that its order of effects can be read off one dialogue.

* `Broker.provision`, `Broker.deprovision` and `Broker.bind` are these dialogues.
* `Broker.Setup.answer` says what each question comes to with a given platform and tool.
-/

namespace ChainBroker

namespace Broker

/-- The questions of the broker. -/
inductive Call where
  /-- Start an instance. -/
  | provision (workload : Workload)
  /-- Remove an instance. -/
  | deprovision (instanceId : String)
  /-- Say where an instance is reachable. -/
  | bind (instanceId bindingId : String)
  /-- Download a contract. -/
  | download (url : String)
  /-- Remove a contract that has been downloaded. -/
  | discard (path : String)
  /-- Deploy a contract to a port of an instance. -/
  | deploy (contract : Contract) (inst : Instance) (port : String)

/-- The answers that the broker gets. -/
abbrev Call.Answer : Call → Type
  | .provision _ | .deprovision _ => Except Failure Unit
  | .bind _ _ => Except Failure Instance
  | .download _ => Except Failure String
  | .discard _ => Unit
  | .deploy _ _ _ => Except Failure Deployment

/-- The questions of the broker and their answers. -/
abbrev interface : Interface := ⟨Call, Call.Answer⟩

/-- Asks a question. -/
def ask (call : Call) : Attempt interface Failure call.Answer :=
  Attempt.question (I := interface) call

/-- Starts an instance of a plan. -/
def provision (catalog : Catalog) (serviceId planId instanceId : String) :
    Attempt interface Failure Unit := do
  let plan ← Attempt.ofExcept id (catalog.plan serviceId planId)
  Attempt.ofExcept id (← ask (.provision (plan.workload instanceId)))

/-- Removes an instance of a plan. -/
def deprovision (catalog : Catalog) (serviceId planId instanceId : String) :
    Attempt interface Failure Unit := do
  let _ ← Attempt.ofExcept id (catalog.plan serviceId planId)
  Attempt.ofExcept id (← ask (.deprovision instanceId))

/-- Says where an instance is reachable and deploys a contract to its first port. -/
def connect (plan : Plan) (instanceId bindingId : String) (contract : Contract) :
    Attempt interface Failure Credentials := do
  let inst ← Attempt.ofExcept id (← ask (.bind instanceId bindingId))
  match plan.primaryPort? with
  | none => throw (.portMissing "<none declared by plan>")
  | some port =>
    let deployment ← Attempt.ofExcept id (← ask (.deploy contract inst port))
    return { inst, deployment }

/-- Binds an instance of a plan: downloads the contract that the payload names, and deploys it. -/
def bind (catalog : Catalog) (serviceId planId instanceId bindingId : String) (payload : Bytes) :
    Attempt interface Failure Credentials := do
  let plan ← Attempt.ofExcept id (catalog.plan serviceId planId)
  let request ← Attempt.ofExcept .invalidBindRequest (BindRequest.ofPayload payload)
  match nonEmpty request.contractUrl with
  | none => throw .contractUrlMissing
  | some url =>
    let path ← Attempt.ofExcept id (← ask (.download url))
    (connect plan instanceId bindingId { url, arguments := request.contractArgs, path }).followedBy
      fun _ => Dialogue.question (I := interface) (.discard path)

/-- Ends a binding, for which nothing has to be done. -/
def unbind (_instanceId _bindingId : String) : Attempt interface Failure Unit := pure ()

/-- Updates an instance, for which nothing has to be done. -/
def update (_instanceId : String) : Attempt interface Failure Unit := pure ()

/-- Tells how the last operation on an instance went; all of them end at once. -/
def lastOperation (_instanceId _operation : String) : Attempt interface Failure Unit := pure ()

/-! ## What the questions come to -/

/-- How long a download may take by default, in milliseconds. -/
def defaultDownloadTimeout : Nat := 60000

/-- The others to whom the broker leaves the work. -/
structure Setup (I : Interface) where
  platform : Platform I
  tool : DeployTool
  /-- How long a download may take, in milliseconds. -/
  downloadTimeout : Nat := defaultDownloadTimeout

/-- A platform together with servers and a workbench. -/
abbrev Surroundings (I : Interface) : Interface := I.sum Contract.interface

/-- What a question comes to. -/
def Setup.answer {I : Interface} (s : Setup I) :
    (call : Call) → Dialogue (Surroundings I) call.Answer
  | .provision workload => onPlatform (s.platform.provision workload)
  | .deprovision instanceId => onPlatform (s.platform.deprovision instanceId)
  | .bind instanceId bindingId => onPlatform (s.platform.bind instanceId bindingId)
  | .download url => besides (Contract.download url s.downloadTimeout)
  | .discard path => Dialogue.question (I := Surroundings I) (.inr (.inr (.remove path)))
  | .deploy contract inst port =>
    besides <| (s.tool.deploy contract inst port).interpret fun call =>
      Dialogue.question (I := Contract.interface) (.inr call)
where
  /-- Puts questions to the platform. -/
  onPlatform {α : Type} (a : Attempt I Failure α) : Dialogue (Surroundings I) (Except Failure α) :=
    a.run.interpret fun call => Dialogue.question (I := Surroundings I) (.inl call)
  /-- Puts questions to the servers and the workbench. -/
  besides {α : Type} (a : Attempt Contract.interface Failure α) :
      Dialogue (Surroundings I) (Except Failure α) :=
    a.run.interpret fun call => Dialogue.question (I := Surroundings I) (.inr call)

/-- What an operation of the broker comes to. -/
def Setup.run {I : Interface} (s : Setup I) {α : Type} (a : Attempt interface Failure α) :
    Attempt (Surroundings I) Failure α :=
  a.interpret s.answer

end Broker

end ChainBroker
