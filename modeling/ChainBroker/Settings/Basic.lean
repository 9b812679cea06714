import ChainBroker.Settings.Check

/-!
# Settings

How the broker is set up: on which platform instances run, under which addresses they are reached,
and which tool deploys contracts. Settings that are left out have defaults, of which one comes from
the environment.

`Settings.validate` makes its checks in a fixed order and only on the platform that is selected.
-/

namespace ChainBroker

/-- The variables of an environment. -/
abbrev Environment : Type := String → Option String

/-- The kinds of platforms. -/
inductive PlatformKind where
  /-- A Docker daemon. -/
  | docker
  /-- A Kubernetes cluster. -/
  | kubernetes
deriving DecidableEq, Repr

/-- The name of the kind. -/
def PlatformKind.name : PlatformKind → String
  | docker => "docker"
  | kubernetes => "kubernetes"

/-- Settings of a Docker daemon. -/
structure DockerSettings where
  /-- The address under which the broker reaches instances. -/
  internalAddress : Option String
  /-- The address under which users reach instances. -/
  externalAddress : String
deriving DecidableEq, Repr

/-- Settings of a Kubernetes cluster. -/
structure KubernetesSettings where
  /-- The host under which users reach instances. -/
  host : String
  /-- The namespace of the objects. -/
  clusterNamespace : Option String
deriving DecidableEq, Repr

/-- Settings of the tool that deploys contracts. -/
structure ToolSettings where
  program : Option String
  /-- The script that the program runs. -/
  script : String
  /-- How long the tool may take, in seconds. -/
  timeoutSeconds : Option Nat
deriving DecidableEq, Repr

/-- How the broker is set up. -/
structure Settings where
  platform : PlatformKind
  /-- The Docker daemon. -/
  docker : Option DockerSettings
  /-- The Kubernetes cluster. -/
  kubernetes : Option KubernetesSettings
  /-- The deploy tool. -/
  tool : ToolSettings
deriving DecidableEq, Repr

/-- A text that is there and not empty. -/
def nonEmpty (s : Option String) : Option String := s.filter (· ≠ "")

/-- The internal address: the setting, or else the variable `DOCKER_SERVER`, or else this machine.
-/
def DockerSettings.effectiveInternalAddress (s : DockerSettings) (env : Environment) : String :=
  ((nonEmpty s.internalAddress).or (nonEmpty (env "DOCKER_SERVER"))).getD "127.0.0.1"

/-- The namespace: the setting, or else the one that every cluster has. -/
def KubernetesSettings.effectiveNamespace (s : KubernetesSettings) : String :=
  s.clusterNamespace.getD "default"

/-- The program: the setting, or else `node`. -/
def ToolSettings.effectiveProgram (s : ToolSettings) : String := s.program.getD "node"

/-- The time that the tool may take: the setting, or else five minutes. -/
def ToolSettings.effectiveTimeoutSeconds (s : ToolSettings) : Nat := s.timeoutSeconds.getD 300

namespace Settings

/-- The settings of the Docker daemon, which have to be there if it is selected. -/
def requireDocker (s : Settings) : Except Failure DockerSettings := Check.present "docker" s.docker

/-- The settings of the cluster, which have to be there if it is selected. -/
def requireKubernetes (s : Settings) : Except Failure KubernetesSettings :=
  Check.present "kubernetes" s.kubernetes

/-- Checks the settings of the platform that is selected. -/
def validatePlatform (s : Settings) : Except Failure Unit :=
  match s.platform with
  | .docker => do
    let docker ← s.requireDocker
    Check.notBlank "docker.external_address" docker.externalAddress
  | .kubernetes => do
    let kubernetes ← s.requireKubernetes
    Check.notBlank "kubernetes.host" kubernetes.host
    Check.notBlank "kubernetes.namespace" kubernetes.effectiveNamespace

/-- Checks the settings. -/
def validate (s : Settings) : Except Failure Unit := do
  Check.path "deployer.script" s.tool.script
  Check.notBlank "deployer.program" s.tool.effectiveProgram
  Check.atLeast 1 "deployer.timeout_seconds" s.tool.effectiveTimeoutSeconds
  s.validatePlatform

end Settings

end ChainBroker
