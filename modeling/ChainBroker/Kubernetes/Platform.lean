import ChainBroker.Kubernetes.Api
import ChainBroker.Platform

/-!
# Instances in a Kubernetes cluster

An instance is a pod of the same name together with the service that publishes its ports. The pod is
created first. Both are deleted whether or not they are there, so that a half-made instance can be
removed too. Inside the cluster an instance is reached by its name, from outside under the host at
the ports of the nodes.
-/

namespace ChainBroker.Kubernetes

/-- Asks the cluster. -/
def ask (call : Call) : Attempt interface Failure call.Answer :=
  Attempt.question (I := interface) call

/-- Creates the pod and the service. -/
def provision (w : Workload) : Attempt interface Failure Unit := do
  let ports ← Attempt.ofExcept id w.parsedPorts
  Attempt.ofExcept .kubernetes (← ask (.createPod (.ofPorts w.name w.image ports)))
  Attempt.ofExcept .kubernetes (← ask (.createService (.ofPorts w.name ports)))

/-- Deletes the pod and the service; what cannot be deleted is left. -/
def deprovision (instanceId : String) : Attempt interface Failure Unit := do
  let _ ← ask (.deletePod instanceId)
  let _ ← ask (.deleteService (serviceName instanceId))

/-- The number under which a port of a service is known inside: its target, if that is a number, and
else its own. -/
def ServicePort.internalPort (port : ServicePort) : Int :=
  match port.targetPort with
  | some (.number n) => n
  | _ => port.port

/-- The endpoints of the ports of a service that have a port of the nodes. Of several ports with one
internal number the last one counts. -/
def endpoints (ports : List ServicePort) : Table (List Endpoint) :=
  Table.ofList <| ports.filterMap fun port =>
    port.nodePort.map fun nodePort =>
      (toString port.internalPort, [{ port := toString nodePort }])

/-- Looks at the service. -/
def bind (host instanceId : String) : Attempt interface Failure Instance := do
  let service ← Attempt.ofExcept .kubernetes (← ask (.getService (serviceName instanceId)))
  let ports := (service.spec.bind ServiceSpec.ports).getD []
  return { internalAddress := instanceId, externalAddress := host, endpoints := endpoints ports }

/-- A cluster as a platform, with the host under which users reach its nodes. -/
def platform (host : String) : Platform interface where
  provision := provision
  deprovision := deprovision
  bind instanceId _ := bind host instanceId

end ChainBroker.Kubernetes
