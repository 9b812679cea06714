import ChainBroker.Proofs.LoadedCatalog
import ChainBroker.Proofs.NodePorts

/-!
# The ports of a service are told apart

A cluster takes a service with several ports only if their names are distinct, and if no number
occurs twice with one protocol. The name that the broker gives to a port is made of its protocol and
its number, and no two ports share one (`Kubernetes.ServicePort.name_ofPort_injective`). So both
conditions say that the ports of the service are distinct.

Nothing else makes them distinct: the loader accepts every list of texts that denote ports, and two
of the texts may denote one port. The service for such a plan repeats it
(`doubled_ports_repeat`).
-/

namespace ChainBroker

open Dialogue Attempt

theorem Protocol.upperName_injective : Function.Injective Protocol.upperName := by
  intro p q h
  cases p <;> cases q <;> first | rfl | exact absurd h (by decide)

namespace Kubernetes

/-! ## Names and numbers -/

/-- The number and the protocol of a port, which a cluster tells ports apart by. -/
def ServicePort.address (port : ServicePort) : Int × Option String := (port.port, port.protocol)

theorem ServicePort.name_ofPort_injective :
    Function.Injective fun port : Port => (ofPort port).name := by
  intro p q h
  have htext : (p.protocol.name ++ "-" ++ p.digits).toList =
      (q.protocol.name ++ "-" ++ q.digits).toList := congrArg String.toList (Option.some.inj h)
  simp only [String.toList_append, List.append_assoc] at htext
  -- the protocols first, so that what they leave of the names are the digits
  have hprotocol : p.protocol = q.protocol := by
    cases hp : p.protocol <;> cases hq : q.protocol <;> simp [hp, hq, Protocol.name] at htext ⊢
  rw [hprotocol] at htext
  have hdigits := List.append_cancel_left (List.append_cancel_left htext)
  have hnumber := Port.digits_inj.mp (String.toList_injective hdigits)
  exact Port.ext_iff_number.mpr ⟨hnumber, hprotocol⟩

theorem ServicePort.address_ofPort_injective :
    Function.Injective fun port : Port => (ofPort port).address := by
  intro p q h
  obtain ⟨hnumber, hprotocol⟩ := Prod.ext_iff.mp h
  have hname : p.protocol.upperName = q.protocol.upperName := Option.some.inj hprotocol
  have hport : (p.number : Int) = q.number := hnumber
  exact Port.ext_iff_number.mpr ⟨Int.ofNat.inj hport, Protocol.upperName_injective hname⟩

theorem nodup_names_iff (instanceId : String) (ports : List Port) :
    ((Service.ofPorts instanceId ports).shownPorts.map ServicePort.name).Nodup ↔ ports.Nodup := by
  show ((ports.map ServicePort.ofPort).map ServicePort.name).Nodup ↔ _
  rw [List.map_map]
  exact List.nodup_map_iff ServicePort.name_ofPort_injective

theorem nodup_addresses_iff (instanceId : String) (ports : List Port) :
    ((Service.ofPorts instanceId ports).shownPorts.map ServicePort.address).Nodup ↔
      ports.Nodup := by
  show ((ports.map ServicePort.ofPort).map ServicePort.address).Nodup ↔ _
  rw [List.map_map]
  exact List.nodup_map_iff ServicePort.address_ofPort_injective

end Kubernetes

/-! ## What is sent for a plan -/

/-- No two of the texts of a plan denote one port. -/
def Plan.PortsDistinct (plan : Plan) : Prop := (plan.ports.map Port.parse).Nodup

theorem Plan.portsDistinct_iff {plan : Plan} {ports : List Port}
    (parsed : Port.parseAll plan.ports = .ok ports) : plan.PortsDistinct ↔ ports.Nodup := by
  unfold PortsDistinct
  rw [Port.parseAll_eq_ok_iff.mp parsed]
  exact List.nodup_map_iff fun _ _ => Except.ok.inj

namespace Broker

/-- The service is sent when an instance of a plan is provisioned in a cluster. -/
def SendsService (host : String) (tool : DeployTool) (timeout : Nat) (catalog : Catalog)
    (serviceId planId instanceId : String) (service : Kubernetes.Service) : Prop :=
  ∃ log result created,
    Transcript (Setup.run ⟨Kubernetes.platform host, tool, timeout⟩
      (provision catalog serviceId planId instanceId)).run log result ∧
    ⟨.inl (.createService service), created⟩ ∈ log

variable {host : String} {tool : DeployTool} {timeout : Nat} {catalog : Catalog}
  {serviceId planId instanceId : String} {plan : Plan} {ports : List Port}

/-- What is sent is the service of the plan's ports, and nothing else. -/
theorem sendsService_iff (lookup : catalog.plan serviceId planId = .ok plan)
    (parsed : Port.parseAll plan.ports = .ok ports) {service : Kubernetes.Service} :
    SendsService host tool timeout catalog serviceId planId instanceId service ↔
      service = .ofPorts instanceId ports := by
  have hports : (plan.workload instanceId).parsedPorts = .ok ports :=
    Workload.parsedPorts_eq_ok_iff.mpr parsed
  constructor
  · rintro ⟨log, result, created, h, hmem⟩
    obtain ⟨plan', inner, lookup', hinner, hplatform⟩ := transcript_run_provision h hmem
    obtain ⟨ports', hports', rfl⟩ :=
      (Kubernetes.transcript_provision hplatform).of_createService hinner
    rw [lookup] at lookup'
    cases lookup'
    rw [hports] at hports'
    cases hports'
    rfl
  · -- with a platform that does all it is asked for, the service is sent
    rintro rfl
    have houter : Transcript (provision catalog serviceId planId instanceId).run
        [⟨.provision (plan.workload instanceId), .ok ()⟩] (.ok ()) := by
      unfold provision
      rw [lookup]
      exact .ask (.done _)
    have hinner : Transcript (Setup.answer ⟨Kubernetes.platform host, tool, timeout⟩
        (.provision (plan.workload instanceId))) _ _ :=
      transcript_onPlatform_iff.mpr ⟨_, Kubernetes.transcript_provision_of_ok hports, rfl⟩
    refine ⟨_, _, .ok (), transcript_run_iff.mpr ⟨_, houter, spelled_singleton_iff.mpr hinner⟩, ?_⟩
    exact List.mem_cons_of_mem _ List.mem_cons_self

end Broker

/-- **The ports of the service for a plan are told apart exactly if no two texts of the plan denote
one port.** One service is sent for a plan of a loaded catalog; the names of its ports are distinct
exactly then, and so are their numbers with their protocols. -/
theorem service_ports_toldApart_iff {dir : String} {freshIds : Catalog.FreshIds}
    {listing : Except OsError Listing} {catalog : Catalog}
    (loaded : Catalog.load dir freshIds listing = .ok catalog) {serviceId planId : String}
    {plan : Plan} (lookup : catalog.plan serviceId planId = .ok plan) (host : String)
    (tool : DeployTool) (timeout : Nat) (instanceId : String) :
    ∃ service : Kubernetes.Service,
      (∀ other, Broker.SendsService host tool timeout catalog serviceId planId instanceId other ↔
        other = service) ∧
      ((service.shownPorts.map Kubernetes.ServicePort.name).Nodup ↔ plan.PortsDistinct) ∧
      ((service.shownPorts.map Kubernetes.ServicePort.address).Nodup ↔ plan.PortsDistinct) := by
  obtain ⟨first, rest, parsed⟩ := ((Catalog.runnable_of_load loaded).plan lookup).2.parseAll
  refine ⟨.ofPorts instanceId (first :: rest), fun other => Broker.sendsService_iff lookup parsed,
    ?_, ?_⟩
  · rw [Plan.portsDistinct_iff parsed]
    exact Kubernetes.nodup_names_iff instanceId _
  · rw [Plan.portsDistinct_iff parsed]
    exact Kubernetes.nodup_addresses_iff instanceId _

/-! ### A port that a plan names twice -/

namespace Catalog

/-- The text of a definition whose plan names one port in two spellings. -/
def doubledDefinition : String :=
  "\x7b\"id\":\"eth\",\"name\":\"geth\",\"plans\":[\x7b\"id\":\"dev\",\"name\":\"dev\"," ++
    "\"image\":\"nimak/geth\",\"ports\":[\"8545\",\"8545/tcp\"]\x7d]\x7d"

def doubledPlan : Plan := { ethPlan with ports := ["8545", "8545/tcp"] }

def doubledCatalog : Catalog where
  entries :=
    [("eth",
      { id := "eth", name := "geth", description := "", tags := [], displayName := ""
        plans := [("dev", doubledPlan)] })]

theorem parseAll_doubled : Port.parseAll doubledPlan.ports = .ok [ethPort, ethPort] := by
  decide +kernel

/-- The loader accepts the definition. -/
theorem load_doubled :
    load "services" (fun _ _ => "")
      (.ok [⟨"eth.json", .file (.ok (Utf8.encode doubledDefinition))⟩]) = .ok doubledCatalog := by
  have hnamed : "services" ≠ "" := by decide
  have hdefines : isDefinitionName "eth.json" = true := by decide
  have hread : Json.decode ServiceDefinition.reader (Utf8.ofText doubledDefinition) =
      .ok (ethReadWith doubledPlan.ports) := by decide +kernel
  exact load_single hnamed hdefines hread (toService_of_ports parseAll_doubled _)

theorem not_portsDistinct_doubled : ¬doubledPlan.PortsDistinct := by
  rw [Plan.portsDistinct_iff parseAll_doubled]
  exact List.not_nodup_pair ethPort

end Catalog

/-- The service that is sent for the plan holds one port twice. -/
theorem doubled_ports_repeat :
    Catalog.load "services" (fun _ _ => "")
        (.ok [⟨"eth.json", .file (.ok (Utf8.encode Catalog.doubledDefinition))⟩]) =
      .ok Catalog.doubledCatalog ∧
    Catalog.doubledCatalog.plan "eth" "dev" = .ok Catalog.doubledPlan ∧
    ∃ service : Kubernetes.Service,
      Broker.SendsService "10.0.0.1" ⟨"node", "deploy.js", 1000⟩ 60000 Catalog.doubledCatalog "eth"
        "dev" "inst-1" service ∧
      ¬(service.shownPorts.map Kubernetes.ServicePort.name).Nodup ∧
      ¬(service.shownPorts.map Kubernetes.ServicePort.address).Nodup := by
  have lookup : Catalog.doubledCatalog.plan "eth" "dev" = .ok Catalog.doubledPlan := rfl
  obtain ⟨service, sent, names, addresses⟩ := service_ports_toldApart_iff Catalog.load_doubled
    lookup "10.0.0.1" ⟨"node", "deploy.js", 1000⟩ 60000 "inst-1"
  refine ⟨Catalog.load_doubled, lookup, service, (sent service).mpr rfl, ?_, ?_⟩
  · rw [names]
    exact Catalog.not_portsDistinct_doubled
  · rw [addresses]
    exact Catalog.not_portsDistinct_doubled

end ChainBroker
