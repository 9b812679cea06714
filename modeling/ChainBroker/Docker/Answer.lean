import ChainBroker.Docker.Api
import ChainBroker.Json.Decode
import ChainBroker.Text.Utf8

/-!
# Answers of the Docker daemon

The JSON documents that the daemon answers with. Of most of their members nothing is used, but a
member that is known has to have the right type and may be given once.

The report on a pull is a stream of documents, one a line. A document that goes on over a line is
put together again as long as that can be done before the stream ends.
-/

namespace ChainBroker.Docker

open Json (Reader Shape)

/-- A record that is being read: the names of its members so far, and what is made of them. -/
structure Reading (α : Type) where
  /-- The names of the members that have been read. -/
  names : List String
  /-- What is made of the members. -/
  value : α

/-- A field that is put to use. -/
def used {α β : Type} (name : String) (need : Need) (r : Reader β) (put : α → β → α) :
    Json.Field (Reading α) where
  name
  need
  given reading := reading.names.contains name
  read reading s :=
    (r s).map fun t => t.map fun b => ⟨name :: reading.names, put reading.value b⟩

/-- A field that may be left out and is not used. -/
def unused {α β : Type} (r : Reader β) (name : String) : Json.Field (Reading α) :=
  used name .nullable (Json.nullable r) fun value _ => value

/-- Reads a record of a shape. -/
def readerOf {α : Type} (shape : Shape (Reading α)) (blank : α) : Reader α := fun s =>
  (Json.recordOf shape ⟨[], blank⟩ s).map fun t => t.map Reading.value

/-- A whole number of 64 bits. -/
def longValue : Reader Int :=
  Json.intValue Int64.minValue.toInt Int64.maxValue.toInt "i64"

/-! ## Errors -/

/-- The complaint in the body of an error response. -/
def complaintReader : Reader String :=
  readerOf
    { title := "struct DockerServerErrorMessage"
      fields := [used "message" .required Json.textValue fun _ message => message] } ""

/-- What a response with an error status complains about: its message if it has one, and otherwise
its whole body, which has to be JSON unless it is empty. -/
def complaint (body : Bytes) : Except Json.Fault String :=
  let text := Utf8.decodeLossy body
  if body = [] then .ok ""
  else match Json.decode complaintReader (Utf8.ofText text) with
    | .ok message => .ok message
    | .error cause => if cause.kind = .misfit then .ok text else .error cause

/-! ## Created containers -/

/-- The answer to the creation of a container; nothing of it is used. -/
def createdReader : Reader Unit :=
  readerOf
    { title := "struct ContainerCreateResponse"
      fields :=
        [used "Id" .required Json.textValue fun _ _ => (),
          used "Warnings" .required (Json.nullable (Json.listOf Json.textValue))
            fun _ _ => ()] } ()

/-! ## Progress of a pull -/

/-- A line of the report on a pull. -/
structure Progress where
  /-- What is being done. -/
  status : Option String := none
  /-- Why the pull fails. -/
  error : Option String := none

/-- Reads a line of the report. -/
def progressReader : Reader Progress :=
  let detail (title : String) (fields : List (Json.Field (Reading Unit))) : Reader Unit :=
    readerOf ⟨title, fields⟩ ()
  readerOf
    { title := "struct CreateImageInfo"
      fields :=
        [unused Json.textValue "id",
          used "error" .nullable (Json.nullable Json.textValue)
            fun progress error => { progress with error },
          unused (detail "struct ErrorDetail"
            [unused longValue "code", unused Json.textValue "message"]) "errorDetail",
          used "status" .nullable (Json.nullable Json.textValue)
            fun progress status => { progress with status },
          unused Json.textValue "progress",
          unused (detail "struct ProgressDetail"
            [unused longValue "current", unused longValue "total"]) "progressDetail"] } {}

/-- The line as an item of the report. -/
def Progress.item (progress : Progress) : PullItem :=
  if progress.error.isSome then .error .pullFailed else .ok progress.status

/-- What can be taken off the front of a report. -/
inductive Front (bound : Nat) where
  /-- A line, and what follows it. -/
  | line (progress : Progress) (rest : Bytes) (shorter : rest.length < bound)
  /-- The line goes on; this is the report without the line break. -/
  | unfinished (rest : Bytes) (noLonger : rest.length ≤ bound)
  /-- Something that is no line. -/
  | failed (cause : Json.Fault)

/-- A line, or nothing for null. -/
def decodeLine (line : Bytes) : Except Json.Fault (Option Progress) :=
  Json.decode (Json.nullable progressReader) (Utf8.pieces line)

/-- Whether the byte ends a line. -/
def isLineBreak (b : UInt8) : Bool := b == 10

/-- The front of a report that is not empty. -/
def front (report : Bytes) : Front report.length :=
  match h : report.dropWhile (!isLineBreak ·) with
  | [] =>
    match decodeLine report with
    | .ok (some progress) =>
      if hr : 0 < report.length then .line progress [] hr else .unfinished [] (Nat.zero_le _)
    | .ok none => .unfinished [] (Nat.zero_le _)
    | .error cause =>
      if cause.kind = .ended then .unfinished report (Nat.le_refl _) else .failed cause
  | _ :: rest =>
    have hl : (report.takeWhile (!isLineBreak ·)).length + (rest.length + 1) = report.length := by
      have := congrArg List.length <|
        List.takeWhile_append_dropWhile (p := (!isLineBreak ·)) (l := report)
      rw [List.length_append, h] at this
      exact this
    let joined : Front report.length :=
      .unfinished (report.takeWhile (!isLineBreak ·) ++ rest) (by rw [List.length_append]; omega)
    match decodeLine (report.takeWhile (!isLineBreak ·)) with
    | .ok (some progress) => .line progress rest (by omega)
    | .ok none => joined
    | .error cause => if cause.kind = .ended then joined else .failed cause

/-- What comes after the last line of a report, which has arrived whole or in part. -/
def lastItems (isWhole : Bool) : List PullItem := if isWhole then [] else [.error .cut]

/-- The items of a report, which has arrived whole or in part. Nothing more arrives once a line has
gone on (`ended`). -/
def items (isWhole ended : Bool) (report : Bytes) : List PullItem :=
  match report with
  | [] => lastItems isWhole
  | b :: bytes =>
    match front (b :: bytes) with
    | .line progress rest _ => progress.item :: items isWhole ended rest
    | .unfinished rest _ =>
      if rest = [] || !isWhole then lastItems isWhole
      else if ended then [.error .unfinished]
      else items isWhole true rest
    | .failed cause => [.error (.unreadable cause)]
termination_by 2 * report.length + (if ended then 0 else 1)
decreasing_by
  all_goals
    simp_all only [List.length_cons, Bool.not_eq_true, Bool.false_eq_true, if_true, if_false]
  all_goals omega

/-! ## Containers -/

/-- A place on the host. -/
def hostBindingReader : Reader HostBinding :=
  readerOf
    { title := "struct PortBinding"
      fields :=
        [used "HostIp" .nullable (Json.nullable Json.textValue) fun place ip => { place with ip },
          used "HostPort" .nullable (Json.nullable Json.textValue)
            fun place port => { place with port }] } ⟨none, none⟩

/-- The table of the ports of a container. -/
def portTableReader : Reader PortTable :=
  Json.tableOf (Json.nullable (Json.listOf hostBindingReader))

/-- The network settings of a container. -/
def networkReader : Reader Inspection :=
  readerOf
    { title := "struct NetworkSettings"
      fields :=
        [unused Json.textValue "Bridge", unused Json.textValue "SandboxID",
          unused Json.boolValue "HairpinMode", unused Json.textValue "LinkLocalIPv6Address",
          unused longValue "LinkLocalIPv6PrefixLen",
          used "Ports" .nullable (Json.nullable portTableReader) fun _ ports => ⟨ports⟩,
          unused Json.textValue "SandboxKey",
          unused (Json.listOf Json.ignored) "SecondaryIPAddresses",
          unused (Json.listOf Json.ignored) "SecondaryIPv6Addresses",
          unused Json.textValue "EndpointID", unused Json.textValue "Gateway",
          unused Json.textValue "GlobalIPv6Address", unused longValue "GlobalIPv6PrefixLen",
          unused Json.textValue "IPAddress", unused longValue "IPPrefixLen",
          unused Json.textValue "IPv6Gateway", unused Json.textValue "MacAddress",
          unused (Json.tableOf Json.ignored) "Networks"] } ⟨none⟩

/-- What is told of a container. -/
def inspectionReader : Reader Inspection :=
  readerOf
    { title := "struct ContainerInspectResponse"
      fields :=
        [unused Json.textValue "Id", unused Json.textValue "Created",
          unused Json.textValue "Path", unused (Json.listOf Json.textValue) "Args",
          unused Json.ignored "State", unused Json.textValue "Image",
          unused Json.textValue "ResolvConfPath", unused Json.textValue "HostnamePath",
          unused Json.textValue "HostsPath", unused Json.textValue "LogPath",
          unused Json.textValue "Name", unused longValue "RestartCount",
          unused Json.textValue "Driver", unused Json.textValue "Platform",
          unused Json.textValue "MountLabel", unused Json.textValue "ProcessLabel",
          unused Json.textValue "AppArmorProfile", unused (Json.listOf Json.textValue) "ExecIDs",
          unused Json.ignored "HostConfig", unused Json.ignored "GraphDriver",
          unused longValue "SizeRw", unused longValue "SizeRootFs",
          unused (Json.listOf Json.ignored) "Mounts", unused Json.ignored "Config",
          used "NetworkSettings" .nullable (Json.nullable networkReader)
            fun inspection network => network.getD inspection] } ⟨none⟩

end ChainBroker.Docker
