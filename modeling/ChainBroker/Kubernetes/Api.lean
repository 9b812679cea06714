import ChainBroker.Dialogue
import ChainBroker.Kubernetes.Fault
import ChainBroker.Kubernetes.Object

/-!
# The Kubernetes API

What is asked of a cluster, within one namespace: to create a pod or a service, to delete the one of
a name, and to show a service.
-/

namespace ChainBroker.Kubernetes

/-- The questions to a cluster. -/
inductive Call where
  | createPod (pod : Pod)
  | createService (service : Service)
  | deletePod (name : String)
  | deleteService (name : String)
  /-- Show a service. -/
  | getService (name : String)

/-- What the cluster answers. -/
abbrev Call.Answer : Call → Type
  | .createPod _ | .createService _ | .deletePod _ | .deleteService _ => Except Fault Unit
  | .getService _ => Except Fault Service

/-- The questions to a cluster and its answers. -/
abbrev interface : Interface := ⟨Call, Call.Answer⟩

end ChainBroker.Kubernetes
