import ChainBroker.Dialogue
import ChainBroker.Docker.Fault
import ChainBroker.Json.Value
import ChainBroker.Port
import ChainBroker.Table

/-!
# The Docker daemon

What is asked of the daemon: to pull an image, which it reports on item by item, and to create,
start, stop, remove and inspect the container of a name.
-/

namespace ChainBroker.Docker

/-- An item of the report on a pull: a line of progress, or the error that ends the pull. -/
abbrev PullItem : Type := Except Fault (Option String)

/-- How a container is created. Its standard output and error are attached, its input is not, and
all of its ports are published at ports of the host that the daemon chooses. -/
structure ContainerConfig where
  /-- The reference of the image. -/
  image : String
  /-- The keys of the ports to expose. -/
  exposedPorts : Table Unit
deriving DecidableEq

/-- A place on the host where a port of a container is published. -/
structure HostBinding where
  /-- The address. -/
  ip : Option String
  port : Option String
deriving DecidableEq, Repr

/-- The ports of a container under their keys, with the places where they are published, in the
order in which the daemon lists them. -/
abbrev PortTable : Type := List (String × Option (List HostBinding))

/-- What is told of a container: the table of its ports, if it has one. -/
structure Inspection where
  ports : Option PortTable
deriving DecidableEq, Repr

/-- The questions to the daemon. -/
inductive Call where
  /-- Pull an image. -/
  | pull (reference : String)
  /-- Take the next item of the report on a pull. -/
  | pulled (item : PullItem)
  | create (name : String) (config : ContainerConfig)
  /-- Start a container. -/
  | start (name : String)
  /-- Stop a container. -/
  | stop (name : String)
  /-- Remove a container. -/
  | remove (name : String)
  /-- Inspect a container. -/
  | inspect (name : String)

/-- What the daemon answers. -/
abbrev Call.Answer : Call → Type
  | .pull _ => List PullItem
  | .pulled _ => Unit
  | .create _ _ | .start _ | .stop _ | .remove _ => Except Fault Unit
  | .inspect _ => Except Fault Inspection

/-- The questions to the daemon and its answers. -/
abbrev interface : Interface := ⟨Call, Call.Answer⟩

namespace ContainerConfig

/-- The configuration of a container with an image and ports. -/
def ofPorts (image : String) (ports : List Port) : ContainerConfig where
  image := image
  exposedPorts := Table.ofList (ports.map fun port => (port.key, ()))

/-- The JSON form. -/
def toJson (c : ContainerConfig) : Json :=
  .record
    [("AttachStdin", .bool false), ("AttachStdout", .bool true), ("AttachStderr", .bool true),
      ("ExposedPorts", .record (c.exposedPorts.toList.map fun e => (e.1, .record []))),
      ("Tty", .bool false), ("OpenStdin", .bool false), ("Image", .text c.image),
      ("NetworkDisabled", .bool false),
      ("HostConfig", .record [("PublishAllPorts", .bool true), ("Privileged", .bool false)])]

end ContainerConfig

end ChainBroker.Docker
