import ChainBroker.Json.Value
import ChainBroker.Port

/-!
# Pods and services

The objects that stand for an instance in a cluster: a pod that runs the image, and a service that
gives the pod's ports to the outside at ports of the nodes. A service finds its pod by labels, which
are made of the id of the instance, and has a name made of that id too.
-/

namespace ChainBroker.Kubernetes

/-- Names with values that mark an object. -/
abbrev Labels : Type := List (String × String)

/-- A pod with one container. -/
structure Pod where
  name : String
  labels : Labels
  /-- The name of the container. -/
  container : String
  /-- The reference of the image. -/
  image : String
  /-- The ports of the container. -/
  ports : List Port
deriving DecidableEq, Repr

/-- The port of a pod to which a service passes on. -/
inductive TargetPort where
  | number (n : Int)
  /-- The name that the pod gives a port. -/
  | name (s : String)
deriving DecidableEq, Repr

/-- A port of a service. -/
structure ServicePort where
  /-- The number. -/
  port : Int
  name : Option String := none
  protocol : Option String := none
  /-- The port of the nodes that leads to it. -/
  nodePort : Option Int := none
  /-- The port of the pod that it leads to. -/
  targetPort : Option TargetPort := none
deriving DecidableEq, Repr

/-- What a service is to do. -/
structure ServiceSpec where
  ports : Option (List ServicePort)
  /-- The labels of the pods that it leads to. -/
  selector : Labels
  /-- How it is published. -/
  kind : Option String
deriving DecidableEq, Repr

/-- A service. -/
structure Service where
  name : String
  labels : Labels
  /-- What it is to do. -/
  spec : Option ServiceSpec
deriving DecidableEq, Repr

/-- The name of the service of an instance. -/
def serviceName (instanceId : String) : String := "svc-" ++ instanceId

/-- The mark of everything that the broker makes. -/
def provisionedBy : String := "node-broker"

/-- The labels of an instance. -/
def labels (instanceId : String) : Labels := [("app", instanceId), ("provisionedBy", provisionedBy)]

/-- The pod of an instance. -/
def Pod.ofPorts (instanceId image : String) (ports : List Port) : Pod where
  name := instanceId
  labels := Kubernetes.labels instanceId
  container := instanceId
  image := image
  ports := ports

/-- A port as a service names it. The target is left to the cluster, which takes the same number. -/
def ServicePort.ofPort (port : Port) : ServicePort where
  port := port.number
  name := some (port.protocol.name ++ "-" ++ port.digits)
  protocol := some port.protocol.upperName

/-- The service of an instance. -/
def Service.ofPorts (instanceId : String) (ports : List Port) : Service where
  name := serviceName instanceId
  labels := Kubernetes.labels instanceId
  spec := some
    { ports := some (ports.map .ofPort), selector := Kubernetes.labels instanceId
      kind := some "NodePort" }

/-! ## JSON forms -/

/-- The members that are present. -/
def presentMembers (l : List (String × Option Json)) : List (String × Json) :=
  l.filterMap fun (name, value) => value.map fun value => (name, value)

/-- The JSON form of labels. -/
def labelsToJson (l : Labels) : Json := .record (l.map fun (name, value) => (name, .text value))

/-- The JSON form of the name and the labels of an object. -/
def metadataToJson (name : String) (labels : Labels) : Json :=
  .record [("labels", labelsToJson labels), ("name", .text name)]

/-- The JSON form. -/
def Pod.toJson (pod : Pod) : Json :=
  .record
    [("apiVersion", .text "v1"), ("kind", .text "Pod"),
      ("metadata", metadataToJson pod.name pod.labels),
      ("spec", .record
        [("containers", .list
          [.record
            [("image", .text pod.image), ("name", .text pod.container),
              ("ports", .list (pod.ports.map fun port => .record
                [("containerPort", .int port.number),
                  ("protocol", .text port.protocol.upperName)]))]])])]

/-- The JSON form. -/
def TargetPort.toJson : TargetPort → Json
  | number n => .int n
  | name s => .text s

/-- The JSON form. -/
def ServicePort.toJson (port : ServicePort) : Json :=
  .record <| presentMembers
    [("name", port.name.map .text), ("nodePort", port.nodePort.map .int),
      ("port", some (.int port.port)), ("protocol", port.protocol.map .text),
      ("targetPort", port.targetPort.map TargetPort.toJson)]

/-- The JSON form. -/
def ServiceSpec.toJson (spec : ServiceSpec) : Json :=
  .record <| presentMembers
    [("ports", spec.ports.map fun ports => .list (ports.map ServicePort.toJson)),
      ("selector", some (labelsToJson spec.selector)), ("type", spec.kind.map .text)]

/-- The JSON form. -/
def Service.toJson (service : Service) : Json :=
  .record <| presentMembers
    [("apiVersion", some (.text "v1")), ("kind", some (.text "Service")),
      ("metadata", some (metadataToJson service.name service.labels)),
      ("spec", service.spec.map ServiceSpec.toJson)]

end ChainBroker.Kubernetes
