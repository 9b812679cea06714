import ChainBroker.Files
import ChainBroker.Settings.Basic
import ChainBroker.Settings.Placeholder
import ChainBroker.Toml.Decode
import ChainBroker.Toml.Read

/-!
# Settings documents

Settings are written in a TOML document with the sections `backend`, `docker`, `kubernetes` and
`deployer`, of which only the last one has to be there; other sections are refused. Before the
document is read, the values of the environment take the places of the placeholders in its text.
-/

namespace ChainBroker

open Toml (Shape Decoder)

namespace DockerSettings

/-- The fields that have been taken. -/
structure Draft where
  internalAddress : Option (Option String) := none
  externalAddress : Option String := none

/-- The fields of the section. -/
def shape : Shape Draft where
  title := "struct DockerConfig"
  fields :=
    [.of "internal_address" .nullable (Toml.optional Toml.textValue) Draft.internalAddress
        fun d x => { d with internalAddress := some x },
      .of "external_address" .required Toml.textValue Draft.externalAddress
        fun d x => { d with externalAddress := some x }]
  closed := false

/-- Takes the section. -/
def decoder : Decoder DockerSettings := fun v =>
  (Toml.recordOf shape {} v).map fun d =>
    { internalAddress := d.internalAddress.getD none
      externalAddress := d.externalAddress.getD "" }

end DockerSettings

namespace KubernetesSettings

/-- The fields that have been taken. -/
structure Draft where
  host : Option String := none
  clusterNamespace : Option (Option String) := none

/-- The fields of the section. -/
def shape : Shape Draft where
  title := "struct KubernetesConfig"
  fields :=
    [.of "host" .required Toml.textValue Draft.host fun d x => { d with host := some x },
      .of "namespace" .nullable (Toml.optional Toml.textValue) Draft.clusterNamespace
        fun d x => { d with clusterNamespace := some x }]
  closed := false

/-- Takes the section. -/
def decoder : Decoder KubernetesSettings := fun v =>
  (Toml.recordOf shape {} v).map fun d =>
    { host := d.host.getD "", clusterNamespace := d.clusterNamespace.getD none }

end KubernetesSettings

namespace ToolSettings

/-- The fields that have been taken. -/
structure Draft where
  program : Option (Option String) := none
  script : Option String := none
  /-- The time limit. -/
  timeoutSeconds : Option (Option Nat) := none

/-- The fields of the section. -/
def shape : Shape Draft where
  title := "struct DeployerConfig"
  fields :=
    [.of "program" .nullable (Toml.optional Toml.textValue) Draft.program
        fun d x => { d with program := some x },
      .of "script" .required (Toml.textAs "path string") Draft.script
        fun d x => { d with script := some x },
      .of "timeout_seconds" .nullable (Toml.optional Toml.naturalValue) Draft.timeoutSeconds
        fun d x => { d with timeoutSeconds := some x }]
  closed := false

/-- Takes the section. -/
def decoder : Decoder ToolSettings := fun v =>
  (Toml.recordOf shape {} v).map fun d =>
    { program := d.program.getD none, script := d.script.getD ""
      timeoutSeconds := d.timeoutSeconds.getD none }

end ToolSettings

namespace PlatformKind

/-- The field of the section that selects the platform. -/
def shape : Shape (Option PlatformKind) where
  title := "struct BackendSection"
  fields :=
    [.of "kind" .defaulted (Toml.choice [("docker", docker), ("kubernetes", kubernetes)]) id
      fun _ kind => some kind]
  closed := false

/-- Takes the section; without a selection the platform is a Docker daemon. -/
def decoder : Decoder PlatformKind := fun v => (Toml.recordOf shape none v).map (·.getD docker)

end PlatformKind

namespace Settings

/-- The sections that have been taken. -/
structure Draft where
  platform : Option PlatformKind := none
  /-- The Docker daemon. -/
  docker : Option (Option DockerSettings) := none
  /-- The Kubernetes cluster. -/
  kubernetes : Option (Option KubernetesSettings) := none
  /-- The deploy tool. -/
  tool : Option ToolSettings := none

/-- The sections of a document. -/
def shape : Shape Draft where
  title := "struct BrokerConfig"
  fields :=
    [.of "backend" .defaulted PlatformKind.decoder Draft.platform
        fun d x => { d with platform := some x },
      .of "docker" .nullable (Toml.optional DockerSettings.decoder) Draft.docker
        fun d x => { d with docker := some x },
      .of "kubernetes" .nullable (Toml.optional KubernetesSettings.decoder) Draft.kubernetes
        fun d x => { d with kubernetes := some x },
      .of "deployer" .required ToolSettings.decoder Draft.tool fun d x => { d with tool := some x }]
  closed := true

/-- Takes the settings from a document. -/
def decoder : Decoder Settings := fun v =>
  (Toml.recordOf shape {} v).map fun d =>
    { platform := d.platform.getD .docker, docker := d.docker.getD none
      kubernetes := d.kubernetes.getD none, tool := d.tool.getD ⟨none, "", none⟩ }

/-- The failure of a document that holds no settings. -/
def unreadable (reason : String) : Failure :=
  .settingsInvalid "toml_parsing" ("Error parsing config file: " ++ reason)

/-- The settings in a text, with the environment's values in the places of its placeholders. -/
def ofText (env : Environment) (text : String) : Except Failure Settings :=
  match Toml.document (Placeholder.substitute env text.toList) with
  | none => .error (unreadable "TOML parse error")
  | some document => (decoder document).mapError fun misfit => unreadable misfit.message

/-- The settings in a file, given what comes of reading it. -/
def ofFile (env : Environment) (path : String) (bytes : Except OsError Bytes) :
    Except Failure Settings :=
  match textOf bytes with
  | .error cause =>
    .error (.settings ("Error opening config file " ++ path ++ ": " ++ cause.message))
  | .ok text => ofText env text

end Settings

end ChainBroker
