import ChainBroker.Catalog.Basic
import ChainBroker.Credentials
import ChainBroker.Dialogue
import ChainBroker.Failure

/-!
# Container platforms

An instance is a running image with its ports exposed, known by the name that the caller gives it. A
platform starts instances, removes them, and says where their ports are reachable. What it does to
that end is a dialogue with the platform's own interface.
-/

namespace ChainBroker

/-- What is to run. -/
structure Workload where
  /-- The name of the instance. -/
  name : String
  /-- The reference of the image. -/
  image : String
  /-- The ports to expose, as texts. -/
  ports : List String
deriving DecidableEq, Repr

/-- An instance of the plan under a name. -/
def Plan.workload (plan : Plan) (instanceId : String) : Workload where
  name := instanceId
  image := plan.image
  ports := plan.ports

/-- The ports of a workload; the first text that is no port is an error. -/
def Workload.parsedPorts (w : Workload) : Except Failure (List Port) :=
  (Port.parseAll w.ports).mapError Failure.ofPort

/-- A platform that is spoken to through the interface `I`. -/
structure Platform (I : Interface) where
  /-- Starts an instance. -/
  provision : Workload → Attempt I Failure Unit
  /-- Removes the instance of a name. -/
  deprovision : (instanceId : String) → Attempt I Failure Unit
  /-- Says where the ports of an instance are reachable for a binding. -/
  bind : (instanceId bindingId : String) → Attempt I Failure Instance

end ChainBroker
