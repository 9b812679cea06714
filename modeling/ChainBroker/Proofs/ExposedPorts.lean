import ChainBroker.Proofs.Docker
import ChainBroker.Proofs.Kubernetes

/-!
# The ports that are exposed

Both platforms send the ports of a workload in spellings of their own. Docker has a table whose keys
are canonical spellings, so that a port that is given twice is sent once. A cluster is sent two
lists, of the ports of a container and of those of a service, with numbers and with the names of
protocols in upper case.

What is sent is read again as JSON, and all of it is the same: the ports that the texts of the
workload denote (`Exposed`). If one of the texts denotes none, both platforms are told so of the
first such text, and are asked to make nothing (`exposed_alike`).
-/

namespace ChainBroker

open Dialogue Attempt

/-! ## Reading what is sent -/

namespace Json

/-- The value of a member of a record. -/
def member? (name : String) : Json → Option Json
  | .record members => members.lookup name
  | _ => none

/-- The names of the members of a record. -/
def names? : Json → Option (List String)
  | .record members => some (members.map Prod.fst)
  | _ => none

/-- The items of a list. -/
def items? : Json → Option (List Json)
  | .list items => some items
  | _ => none

end Json

/-- The ports in the keys of the table that a new container is described with. -/
def Docker.exposedPorts? (container : Json) : Option (List Port) := do
  let exposed ← container.member? "ExposedPorts"
  let keys ← exposed.names?
  (Port.parseAll keys).toOption

namespace Kubernetes

/-- The port in an entry of a list: a number under the given name, and the name of a protocol. -/
def portOf? (numberName : String) (entry : Json) : Option Port := do
  let .int n ← entry.member? numberName | none
  let .text protocol ← entry.member? "protocol" | none
  (Port.parse (toString n ++ "/" ++ protocol)).toOption

/-- The ports of the one container of a pod. -/
def containerPorts? (pod : Json) : Option (List Port) := do
  let spec ← pod.member? "spec"
  let containers ← spec.member? "containers"
  let [container] ← containers.items? | none
  let ports ← container.member? "ports"
  let entries ← ports.items?
  entries.mapM (portOf? "containerPort")

/-- The ports of a service. -/
def servicePorts? (service : Json) : Option (List Port) := do
  let spec ← service.member? "spec"
  let ports ← spec.member? "ports"
  let entries ← ports.items?
  entries.mapM (portOf? "port")

end Kubernetes

/-- A container, a pod and a service are described with the same ports; those of the pod and of the
service stand in order. -/
structure Exposed (ports : List Port) (container pod service : Json) : Prop where
  /-- The keys of the container are those of the ports. -/
  container : ∃ listed, Docker.exposedPorts? container = some listed ∧
    ∀ port, port ∈ listed ↔ port ∈ ports
  /-- The pod has the ports one by one. -/
  pod : Kubernetes.containerPorts? pod = some ports
  /-- So has the service. -/
  service : Kubernetes.servicePorts? service = some ports

variable {ports : List Port}

/-- Texts among which are the keys of the ports, and no others, are read as the ports. -/
theorem Port.exists_parseAll_of_keys {keys : List String}
    (h : ∀ key, key ∈ keys ↔ ∃ port ∈ ports, port.key = key) :
    ∃ listed, parseAll keys = .ok listed ∧ ∀ port, port ∈ listed ↔ port ∈ ports := by
  obtain ⟨listed, hlisted⟩ : ∃ listed, parseAll keys = .ok listed := by
    rw [exists_parseAll_iff]
    intro key hkey
    obtain ⟨port, -, rfl⟩ := (h key).mp hkey
    exact ⟨port, port.parse_key⟩
  refine ⟨listed, hlisted, fun port => ?_⟩
  have mem_listed : port ∈ listed ↔ ∃ key ∈ keys, parse key = .ok port := by
    rw [← List.mem_map, parseAll_eq_ok_iff.mp hlisted]
    simp
  rw [mem_listed]
  constructor
  · rintro ⟨key, hkey, hport⟩
    obtain ⟨port', hport', rfl⟩ := (h key).mp hkey
    rw [parse_key] at hport
    cases hport
    exact hport'
  · intro hport
    exact ⟨port.key, (h _).mpr ⟨port, hport, rfl⟩, port.parse_key⟩

theorem Docker.exists_exposedPorts (image : String) (ports : List Port) :
    ∃ listed, exposedPorts? (ContainerConfig.ofPorts image ports).toJson = some listed ∧
      ∀ port, port ∈ listed ↔ port ∈ ports := by
  let keys := (ContainerConfig.ofPorts image ports).exposedPorts.toList.map Prod.fst
  have hread : exposedPorts? (ContainerConfig.ofPorts image ports).toJson =
      (Port.parseAll keys).toOption := by
    simp [exposedPorts?, ContainerConfig.toJson, Json.member?, Json.names?, lookup_cons_eq_ite,
      keys, Function.comp_def]
  have hkeys : ∀ key, key ∈ keys ↔ ∃ port ∈ ports, port.key = key := fun _ => mem_keys_ofPorts_iff
  obtain ⟨listed, hlisted, hports⟩ := Port.exists_parseAll_of_keys hkeys
  refine ⟨listed, ?_, hports⟩
  rw [hread, hlisted]
  rfl

namespace Kubernetes

/-- Entries that are read one by one as they were written are read as a list. -/
theorem mapM_map_eq_some {α β : Type} {f : α → Option β} {g : β → α}
    (h : ∀ b, f (g b) = some b) (l : List β) : (l.map g).mapM f = some l := by
  induction l with
  | nil => rfl
  | cons b l ih =>
    rw [List.map_cons, List.mapM_cons, h, ih]
    rfl

theorem portOf?_eq {numberName : String} {entry : Json} {port : Port}
    (number : entry.member? numberName = some (.int port.number))
    (protocol : entry.member? "protocol" = some (.text port.protocol.upperName)) :
    portOf? numberName entry = some port := by
  have hdigits : toString (port.number : Int) = port.digits := rfl
  have hport := port.parse_upperName
  rw [← hdigits] at hport
  simp only [portOf?, number, protocol, Option.bind_eq_bind, Option.bind_some, hport,
    Except.toOption]

theorem containerPorts?_toJson (instanceId image : String) (ports : List Port) :
    containerPorts? (Pod.ofPorts instanceId image ports).toJson = some ports := by
  have hentry : ∀ port : Port, portOf? "containerPort" (.record
      [("containerPort", .int port.number), ("protocol", .text port.protocol.upperName)]) =
        some port :=
    fun port => portOf?_eq (by simp [Json.member?]) (by simp [Json.member?, lookup_cons_eq_ite])
  rw [← mapM_map_eq_some hentry ports]
  simp [containerPorts?, Pod.toJson, Pod.ofPorts, Json.member?, Json.items?, lookup_cons_eq_ite]

theorem ServicePort.toJson_ofPort (port : Port) :
    (ServicePort.ofPort port).toJson = .record
      [("name", .text (port.protocol.name ++ "-" ++ port.digits)), ("port", .int port.number),
        ("protocol", .text port.protocol.upperName)] := by
  simp [toJson, ofPort, presentMembers]

theorem servicePorts?_toJson (instanceId : String) (ports : List Port) :
    servicePorts? (Service.ofPorts instanceId ports).toJson = some ports := by
  have hentry : ∀ port : Port, portOf? "port" (ServicePort.ofPort port).toJson = some port :=
    fun port => portOf?_eq (by simp [ServicePort.toJson_ofPort, Json.member?, lookup_cons_eq_ite])
      (by simp [ServicePort.toJson_ofPort, Json.member?, lookup_cons_eq_ite])
  rw [← mapM_map_eq_some hentry ports]
  simp [servicePorts?, Service.ofPorts, Service.toJson, ServiceSpec.toJson, presentMembers,
    Json.member?, Json.items?, lookup_cons_eq_ite, Function.comp_def]

end Kubernetes

theorem exposed_ofPorts (name image : String) (ports : List Port) :
    Exposed ports (Docker.ContainerConfig.ofPorts image ports).toJson
      (Kubernetes.Pod.ofPorts name image ports).toJson
      (Kubernetes.Service.ofPorts name ports).toJson where
  container := Docker.exists_exposedPorts image ports
  pod := Kubernetes.containerPorts?_toJson name image ports
  service := Kubernetes.servicePorts?_toJson name ports

/-! ## What a provision asks for -/

namespace Docker

/-- Whether the call is about the pull of an image. -/
def Call.fetches : Call → Bool
  | .pull _ | .pulled _ => true
  | _ => false

/-- What is said apart from the pull of an image. -/
def established (log : List (Exchange interface)) : List (Exchange interface) :=
  log.filter fun x => !x.1.fetches

/-- A container is asked for, and started if it is there. -/
inductive Asks (name : String) (config : ContainerConfig) : List (Exchange interface) → Prop where
  /-- There is none. -/
  | refused (cause : Fault) : Asks name config [⟨.create name config, .error cause⟩]
  /-- It is there. -/
  | created (started : Except Fault Unit) :
    Asks name config [⟨.create name config, .ok ()⟩, ⟨.start name, started⟩]

variable {w : Workload} {log : List (Exchange interface)} {r : Except Failure Unit}

theorem Followed.of_isOk {report : List PullItem} (h : Followed report log r)
    (progress : ∀ item ∈ report, item.isOk = true) : r = .ok () ∧ established log = [] := by
  induction h with
  | finished => exact ⟨rfl, rfl⟩
  | progress rest ih => exact ih (List.forall_mem_cons.mp progress).2
  | failed => exact absurd (List.forall_mem_cons.mp progress).1 Bool.false_ne_true

theorem established_append (log log' : List (Exchange interface)) :
    established (log ++ log') = established log ++ established log' :=
  List.filter_append ..

/-- If the pull succeeds, all else is settled by the texts of the ports. -/
theorem Provisioned.asks (h : Provisioned w log r) {report : List PullItem}
    (pulled : log.head? = some ⟨.pull w.image, report⟩)
    (progress : ∀ item ∈ report, item.isOk = true) :
    (∃ e, w.parsedPorts = .error e ∧ r = .error e ∧ established log = []) ∨
      ∃ ports, w.parsedPorts = .ok ports ∧
        Asks w.name (.ofPorts w.image ports) (established log) := by
  -- the pull has succeeded, so the ports are read, and then the container is asked for
  cases h with
  | unpulled followed =>
    cases pulled
    cases (followed.of_isOk progress).1
  | badPort followed parsed =>
    cases pulled
    exact .inl ⟨_, parsed, rfl, (followed.of_isOk progress).2⟩
  | @uncreated _ said followed ports parsed cause =>
    cases pulled
    refine .inr ⟨ports, parsed, ?_⟩
    have hsaid : established said = [] := (followed.of_isOk progress).2
    show Asks _ _ (established (said ++ _))
    rw [established_append, hsaid]
    exact .refused cause
  | @created _ said followed ports parsed started =>
    cases pulled
    refine .inr ⟨ports, parsed, ?_⟩
    have hsaid : established said = [] := (followed.of_isOk progress).2
    show Asks _ _ (established (said ++ _))
    rw [established_append, hsaid]
    exact .created started

/-- What a provision comes to at a daemon that pulls the image. -/
theorem hold_provision_of_pulled {daemon : Behaviour interface}
    (pulled : ∀ item ∈ daemon [] (.pull w.image), item.isOk = true) :
    let run := (provision w).run.hold daemon
    (∃ e, w.parsedPorts = .error e ∧ run.1 = .error e ∧ established run.2 = []) ∨
      ∃ ports, w.parsedPorts = .ok ports ∧
        Asks w.name (.ofPorts w.image ports) (established run.2) := by
  obtain ⟨rest, hrest⟩ : ∃ rest, ((provision w).run.hold daemon).2 =
      ⟨.pull w.image, daemon [] (.pull w.image)⟩ :: rest := hold_ask daemon (.pull w.image) _
  exact (transcript_provision (transcript_hold daemon _)).asks (by rw [hrest]; rfl) pulled

end Docker

namespace Kubernetes

/-- A pod is asked for, and a service if the pod is there. -/
inductive Asks (pod : Pod) (service : Service) : List (Exchange interface) → Prop where
  /-- There is none. -/
  | refused (cause : Fault) : Asks pod service [⟨.createPod pod, .error cause⟩]
  /-- It is there. -/
  | created (created : Except Fault Unit) :
    Asks pod service [⟨.createPod pod, .ok ()⟩, ⟨.createService service, created⟩]

/-- What a provision comes to at any cluster. -/
theorem hold_provision_course (w : Workload) (cluster : Behaviour interface) :
    let run := (provision w).run.hold cluster
    (∃ e, w.parsedPorts = .error e ∧ run = (.error e, [])) ∨
      ∃ ports, w.parsedPorts = .ok ports ∧
        Asks (.ofPorts w.name w.image ports) (.ofPorts w.name ports) run.2 := by
  have course := transcript_provision (transcript_hold cluster (provision w).run)
  generalize (provision w).run.hold cluster = run at course ⊢
  obtain ⟨r, log⟩ := run
  cases course with
  | badPort parsed => exact .inl ⟨_, parsed, rfl⟩
  | podless parsed cause => exact .inr ⟨_, parsed, .refused cause⟩
  | pod parsed created => exact .inr ⟨_, parsed, .created created⟩

end Kubernetes

/-! ## Both platforms -/

theorem Workload.parsedPorts_eq_error_iff {w : Workload} {e : Failure} :
    w.parsedPorts = .error e ↔
      ∃ spec defect, Port.parseAll w.ports = .error (spec, defect) ∧
        e = .invalidPort spec defect.message := by
  unfold parsedPorts
  cases Port.parseAll w.ports with
  | ok ports => simp [Except.mapError]
  | error cause =>
    obtain ⟨spec, defect⟩ := cause
    constructor
    · rintro ⟨⟩
      exact ⟨spec, defect, rfl, rfl⟩
    · rintro ⟨_, _, ⟨⟩, rfl⟩
      rfl

/-- **Both platforms expose the same ports.** Where the image can be pulled, either one of the texts
denotes no port, and then both provisions fail with the first such text and ask for nothing, or all
of them denote ports, and then the container, the pod and the service that are asked for are
described with these. -/
theorem exposed_alike (w : Workload) (daemon : Behaviour Docker.interface)
    (cluster : Behaviour Kubernetes.interface)
    (pulled : ∀ item ∈ daemon [] (.pull w.image), item.isOk = true) :
    let onDocker := (Docker.provision w).run.hold daemon
    let onCluster := (Kubernetes.provision w).run.hold cluster
    (∃ before spec after defect, w.ports = before ++ spec :: after ∧
      (∀ earlier ∈ before, ∃ port, Port.parse earlier = .ok port) ∧
      Port.parse spec = .error defect ∧
      onDocker.1 = .error (.invalidPort spec defect.message) ∧
      Docker.established onDocker.2 = [] ∧
      onCluster.1 = .error (.invalidPort spec defect.message) ∧ onCluster.2 = []) ∨
    ∃ ports config pod service, w.ports.map Port.parse = ports.map .ok ∧
      Docker.Asks w.name config (Docker.established onDocker.2) ∧
      Kubernetes.Asks pod service onCluster.2 ∧
      Exposed ports config.toJson pod.toJson service.toJson := by
  intro onDocker onCluster
  -- both read the same texts, so they reject together or accept together
  rcases Docker.hold_provision_of_pulled pulled with
    ⟨e, parsed, hfails, hnothing⟩ | ⟨ports, parsed, hdocker⟩
  · rcases Kubernetes.hold_provision_course w cluster with
      ⟨e', parsed', hcluster⟩ | ⟨ports, parsed', -⟩
    · rw [parsed] at parsed'
      cases parsed'
      obtain ⟨spec, defect, hspec, rfl⟩ := Workload.parsedPorts_eq_error_iff.mp parsed
      obtain ⟨before, after, hports, hbefore, hdefect⟩ := Port.parseAll_eq_error_iff.mp hspec
      exact .inl ⟨before, spec, after, defect, hports, hbefore, hdefect, hfails, hnothing,
        congrArg Prod.fst hcluster, congrArg Prod.snd hcluster⟩
    · rw [parsed] at parsed'
      cases parsed'
  · rcases Kubernetes.hold_provision_course w cluster with
      ⟨e', parsed', -⟩ | ⟨ports', parsed', hcluster⟩
    · rw [parsed] at parsed'
      cases parsed'
    · rw [parsed] at parsed'
      cases parsed'
      have hports := Port.parseAll_eq_ok_iff.mp (Workload.parsedPorts_eq_ok_iff.mp parsed)
      exact .inr ⟨ports, _, _, _, hports, hdocker, hcluster, exposed_ofPorts ..⟩

/-! ### A port that is given twice -/

/-- A workload with two ports, of which one is given in two spellings. -/
def respelled : Workload := ⟨"node", "nimak/geth", [" +08551", "30304/UDP", "8551"]⟩

/-- The ports that the texts denote. -/
def respelledPorts : List Port :=
  [{ number := 8551, protocol := .tcp }, { number := 30304, protocol := .udp },
    { number := 8551, protocol := .tcp }]

theorem map_parse_respelled : respelled.ports.map Port.parse = respelledPorts.map .ok :=
  Port.parseAll_eq_ok_iff.mp (by decide +kernel)

/-- A daemon that does all that it is asked for. -/
def obligingDaemon : Behaviour Docker.interface
  | _, .pull _ => [.ok (some "Pulling from nimak/geth"), .ok none]
  | _, .pulled _ => ()
  | _, .create _ _ | _, .start _ | _, .stop _ | _, .remove _ => .ok ()
  | _, .inspect _ => .ok ⟨none⟩

/-- A cluster that creates and deletes all that it is asked for. -/
def obligingCluster : Behaviour Kubernetes.interface
  | _, .createPod _ | _, .createService _ | _, .deletePod _ | _, .deleteService _ => .ok ()
  | _, .getService _ => .error (.unreachable "SendRequest")

theorem respelled_exposed : ∃ config pod service,
    Docker.Asks "node" config
      (Docker.established ((Docker.provision respelled).run.hold obligingDaemon).2) ∧
    Kubernetes.Asks pod service ((Kubernetes.provision respelled).run.hold obligingCluster).2 ∧
    Exposed respelledPorts config.toJson pod.toJson service.toJson := by
  have hparsed := map_parse_respelled
  rcases exposed_alike respelled obligingDaemon obligingCluster (by decide) with
    ⟨before, spec, after, defect, hports, -, hdefect, -⟩ |
      ⟨ports, config, pod, service, hports, h⟩
  · -- every text denotes a port
    have hspec : Port.parse spec ∈ respelled.ports.map Port.parse := by
      rw [hports]
      exact List.mem_map_of_mem (List.mem_append_right _ List.mem_cons_self)
    rw [hparsed, hdefect] at hspec
    simp at hspec
  · rw [hparsed] at hports
    have hports : respelledPorts = ports :=
      List.map_injective_iff.mpr (fun _ _ => Except.ok.inj) hports
    subst hports
    exact ⟨config, pod, service, h⟩

end ChainBroker
