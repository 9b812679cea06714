import ChainBroker.Docker.Api
import ChainBroker.Platform

/-!
# Instances as Docker containers

An instance is one container of the same name. It is started after its image has been pulled, so
that an image that has changed is used without a restart of the broker, and removed after it has
been stopped. Its endpoints are the places where the daemon publishes its ports, under the numbers
of the ports without their protocols.
-/

namespace ChainBroker.Docker

/-- Asks the daemon. -/
def ask (call : Call) : Attempt interface Failure call.Answer :=
  Attempt.question (I := interface) call

/-- Takes the items of the report on a pull up to the first error. -/
def follow : List PullItem → Attempt interface Failure Unit
  | [] => pure ()
  | item :: items => do
    ask (.pulled item)
    match item with
    | .ok _ => follow items
    | .error cause => throw (.docker cause)

/-- Pulls an image. -/
def pull (reference : String) : Attempt interface Failure Unit := do
  let report : List PullItem ← ask (.pull reference)
  follow report

/-- Pulls the image, creates the container and starts it. -/
def provision (w : Workload) : Attempt interface Failure Unit := do
  pull w.image
  let ports ← Attempt.ofExcept id w.parsedPorts
  Attempt.ofExcept .docker (← ask (.create w.name (.ofPorts w.image ports)))
  Attempt.ofExcept .docker (← ask (.start w.name))

/-- Stops the container and removes it. -/
def deprovision (instanceId : String) : Attempt interface Failure Unit := do
  Attempt.ofExcept .docker (← ask (.stop instanceId))
  Attempt.ofExcept .docker (← ask (.remove instanceId))

/-- The number in the key of a port: what stands before its first slash. -/
def numberPart (key : String) : String := String.ofList (key.toList.takeWhile (· ≠ '/'))

/-- The place as an endpoint; what is not told is left empty. -/
def HostBinding.endpoint (b : HostBinding) : Endpoint where
  port := b.port.getD ""
  hostIp := b.ip.getD ""

/-- The endpoints of a table of ports. Of several ports with one number the last one counts. -/
def endpoints (ports : PortTable) : Table (List Endpoint) :=
  Table.ofList <| ports.map fun (key, places) =>
    (numberPart key, (places.getD []).map HostBinding.endpoint)

/-- Inspects the container. -/
def bind (internalAddress externalAddress instanceId : String) :
    Attempt interface Failure Instance := do
  let inspection ← Attempt.ofExcept .docker (← ask (.inspect instanceId))
  return { internalAddress, externalAddress, endpoints := endpoints (inspection.ports.getD []) }

/-- The Docker daemon as a platform, with the addresses under which the broker and its users reach
published ports. -/
def platform (internalAddress externalAddress : String) : Platform interface where
  provision := provision
  deprovision := deprovision
  bind instanceId _ := bind internalAddress externalAddress instanceId

end ChainBroker.Docker
