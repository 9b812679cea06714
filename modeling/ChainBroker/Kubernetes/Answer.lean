import ChainBroker.Json.Decode
import ChainBroker.Kubernetes.Api
import ChainBroker.Text.Utf8

/-!
# Answers of the Kubernetes API

The JSON documents that a cluster answers with, as far as they are used: refusals, and the ports of
a service. Members that are not used may be anything.
-/

namespace ChainBroker.Kubernetes

open Json (Reader Shape)

/-- A whole number of 32 bits. -/
def shortValue : Reader Int :=
  Json.intValue Int32.minValue.toInt Int32.maxValue.toInt "i32"

/-! ## Refusals -/

namespace Refusal

/-- The fields that have been read. -/
structure Draft where
  /-- The outcome. -/
  status : Option String := none
  /-- The reason in words. -/
  message : Option String := none
  /-- The reason as a word. -/
  reason : Option String := none
  /-- The status code. -/
  code : Option Int := none

/-- The fields of a refusal. -/
def shape : Shape Draft where
  title := "struct ErrorResponse"
  fields :=
    [.of "status" .required Json.textValue Draft.status fun d x => { d with status := some x },
      .of "message" .defaulted Json.textValue Draft.message
        fun d x => { d with message := some x },
      .of "reason" .defaulted Json.textValue Draft.reason fun d x => { d with reason := some x },
      .of "code" .required (Json.intValue 0 65535 "u16") Draft.code
        fun d x => { d with code := some x }]

/-- Reads a refusal. -/
def reader : Reader Refusal := fun s =>
  (Json.recordOf shape {} s).map fun t =>
    t.map fun d =>
      { status := d.status.getD "", message := d.message.getD "", reason := d.reason.getD ""
        code := (d.code.getD 0).toNat }

/-- The refusal in a text; a text that is none is quoted. -/
def ofText (status : String) (code : Nat) (text : String) : Refusal :=
  match Json.decode reader (Utf8.ofText text) with
  | .ok refusal => refusal
  | .error _ => ⟨status, Text.quoted text, "Failed to parse error data", code⟩

end Refusal

/-! ## Services -/

/-- Reads the port of a pod, a number or a name. -/
def TargetPort.reader : Reader TargetPort := fun s =>
  match Json.skipBlanks s with
  | .char '"' :: _ => (Json.textValue s).map fun t => t.map TargetPort.name
  | _ => (shortValue s).map fun t => t.map TargetPort.number

namespace ServicePort

/-- The fields that have been read. -/
structure Draft where
  /-- The number. -/
  port : Option Int := none
  name : Option (Option String) := none
  protocol : Option (Option String) := none
  nodePort : Option (Option Int) := none
  /-- The port of the pod. -/
  targetPort : Option (Option TargetPort) := none

/-- The fields of a port. -/
def shape : Shape Draft where
  title := "ServicePort"
  fields :=
    [.of "name" .nullable (Json.nullable Json.textValue) Draft.name
        fun d x => { d with name := some x },
      .of "nodePort" .nullable (Json.nullable shortValue) Draft.nodePort
        fun d x => { d with nodePort := some x },
      .of "port" .defaulted shortValue Draft.port fun d x => { d with port := some x },
      .of "protocol" .nullable (Json.nullable Json.textValue) Draft.protocol
        fun d x => { d with protocol := some x },
      .of "targetPort" .nullable (Json.nullable TargetPort.reader) Draft.targetPort
        fun d x => { d with targetPort := some x }]

/-- Reads a port. -/
def reader : Reader ServicePort := fun s =>
  (Json.recordOf shape {} s).map fun t =>
    t.map fun d =>
      { port := d.port.getD 0, name := d.name.getD none, protocol := d.protocol.getD none
        nodePort := d.nodePort.getD none, targetPort := d.targetPort.getD none }

end ServicePort

/-- Reads the ports of what a service is to do. -/
def portsReader : Reader (Option (List ServicePort)) := fun s =>
  let shape : Shape (Option (Option (List ServicePort))) :=
    { title := "ServiceSpec"
      fields :=
        [.of "ports" .nullable (Json.nullable (Json.listOf ServicePort.reader)) id
          fun _ ports => some ports] }
  (Json.recordOf shape none s).map fun t => t.map (·.getD none)

/-- Reads a service; of its marks nothing is kept. -/
def serviceReader : Reader Service := fun s =>
  let shape : Shape (Option (Option (Option (List ServicePort)))) :=
    { title := "Service"
      fields :=
        [.of "spec" .nullable (Json.nullable portsReader) id fun _ spec => some spec] }
  (Json.recordOf shape none s).map fun t => t.map fun spec =>
    { name := "", labels := []
      spec := (spec.getD none).map fun ports => { ports, selector := [], kind := none } }

end ChainBroker.Kubernetes
