import ChainBroker.Proofs.Deployment
import ChainBroker.Proofs.Docker
import ChainBroker.Proofs.Kubernetes
import ChainBroker.Proofs.Loader

/-!
# One name for one port

A plan spells its ports as it likes. A provision sends them in the spelling of the platform, the
platform shows them in its own way, a bind gives them names, and a deployment looks for one of these
names. If the numbers of the ports are distinct, all of them mean the same port by the same name.

* `PortsAgree` says so of an instance, given what the platform has reported of each port.
* `Docker.portsAgree` and `Kubernetes.portsAgree` are the two platforms, `ports_agree` is both of
  them for the plans of a loaded catalog.
-/

namespace ChainBroker

open Dialogue Attempt

/-! ## Agreement -/

/-- A deployment to the port does not miss it, and the request that is written, whatever comes of
the deployment, names the endpoint. -/
def DeploysTo (inst : Instance) (port : String) (endpoint : Endpoint) : Prop :=
  ∀ (tool : DeployTool) (contract : Contract) log result,
    Transcript (tool.deploy contract inst port).run log result →
    (∀ missing, result ≠ .error (.portMissing missing)) ∧
      DeployTool.Requests
        (DeployTool.requestBytes ("http://" ++ inst.internalAddress ++ ":" ++ endpoint.port)
          contract.arguments)
        log

theorem deploysTo_of_get? {inst : Instance} {port : String} {endpoint : Endpoint}
    {others : List Endpoint} (h : inst.endpoints.get? port = some (endpoint :: others)) :
    DeploysTo inst port endpoint := by
  intro tool contract log result deployed
  have hendpoint : DeployTool.endpoint? inst port = some endpoint := by
    unfold DeployTool.endpoint?
    rw [h]
  have course := DeployTool.transcript_deploy deployed
  refine ⟨?_, course.requests hendpoint⟩
  rintro missing rfl
  have hnone := course.of_portMissing.2
  rw [hendpoint] at hnone
  cases hnone

/-- The ports of an instance go by the numbers that the plan gives them, and the port to deploy to
is the first one of the plan. For each port the platform has reported endpoints, the first of them
and the others. -/
structure PortsAgree (plan : Plan) (ports : List Port)
    (reported : Port → Endpoint → List Endpoint → Prop) (inst : Instance) : Prop where
  /-- The names are the numbers of the ports. -/
  names : ∀ name, name ∈ inst.endpoints.toList.map Prod.fst ↔ ∃ port ∈ ports, port.digits = name
  /-- Deployments go to the first endpoint that is reported for the first port. -/
  primary : ∃ first rest endpoint others, ports = first :: rest ∧
    plan.primaryPort? = some first.digits ∧ reported first endpoint others ∧
    inst.endpoints.get? first.digits = some (endpoint :: others) ∧
    DeploysTo inst first.digits endpoint

variable {plan : Plan} {ports : List Port} {instanceId bindingId : String}

theorem eq_of_parsedPorts {ports' : List Port} (parsed : Port.parseAll plan.ports = .ok ports)
    (h : (plan.workload instanceId).parsedPorts = .ok ports') : ports = ports' := by
  have h' : Port.parseAll plan.ports = .ok ports' := Workload.parsedPorts_eq_ok_iff.mp h
  rw [parsed] at h'
  cases h'
  rfl

/-- It is enough to know the names, and what stands under each of them. -/
theorem PortsAgree.of_endpoints {reported : Port → Endpoint → List Endpoint → Prop}
    {inst : Instance} (runnable : plan.Runnable) (parsed : Port.parseAll plan.ports = .ok ports)
    (names : ∀ name, name ∈ inst.endpoints.toList.map Prod.fst ↔ ∃ port ∈ ports, port.digits = name)
    (found : ∀ port ∈ ports, ∃ endpoint others, reported port endpoint others ∧
      inst.endpoints.get? port.digits = some (endpoint :: others)) :
    PortsAgree plan ports reported inst := by
  obtain ⟨first, rest, hports⟩ := runnable.parseAll
  rw [hports] at parsed
  cases parsed
  obtain ⟨endpoint, others, hreported, hget⟩ := found first List.mem_cons_self
  exact ⟨names, first, rest, endpoint, others, rfl, Plan.primaryPort?_eq hports, hreported, hget,
    deploysTo_of_get? hget⟩

/-! ## Docker -/

namespace Docker

/-- The endpoints that a table of ports reports for a port. -/
def Reported (table : PortTable) (port : Port) (endpoint : Endpoint) (others : List Endpoint) :
    Prop :=
  ∃ place places, (port.key, some (place :: places)) ∈ table ∧
    place.port = some endpoint.port ∧ endpoint = place.endpoint ∧
    others = places.map HostBinding.endpoint

/-- The ports of a container that shows all that it was created with. -/
theorem portsAgree (runnable : plan.Runnable) (parsed : Port.parseAll plan.ports = .ok ports)
    (distinct : (ports.map Port.number).Nodup) {internalAddress externalAddress : String}
    {provisionLog bindLog : List (Exchange interface)} {provisioned : Except Failure Unit}
    {bound : Except Failure Instance} {name : String} {config : ContainerConfig}
    {created : Except Fault Unit} {table : PortTable}
    (provision : Transcript (Docker.provision (plan.workload instanceId)).run provisionLog
      provisioned)
    (sent : ⟨.create name config, created⟩ ∈ provisionLog) (published : Published config table)
    (bind : Transcript (Docker.bind internalAddress externalAddress instanceId).run bindLog bound)
    (shown : ⟨.inspect instanceId, .ok ⟨some table⟩⟩ ∈ bindLog) :
    ∃ inst, bound = .ok inst ∧ inst.internalAddress = internalAddress ∧
      PortsAgree plan ports (Reported table) inst := by
  obtain ⟨-, ports', parsed', rfl⟩ := (transcript_provision provision).of_create sent
  obtain rfl := eq_of_parsedPorts parsed parsed'
  obtain ⟨inspected, rfl, rfl⟩ := transcript_bind bind
  cases List.mem_singleton.mp shown
  refine ⟨_, rfl, rfl, .of_endpoints runnable parsed (fun name => published.mem_names_iff) ?_⟩
  intro port hport
  obtain ⟨place, places, hmem, hplace, hget⟩ := published.get?_endpoints distinct hport
  obtain ⟨p, hp⟩ := Option.isSome_iff_exists.mp hplace
  refine ⟨place.endpoint, places.map HostBinding.endpoint,
    ⟨place, places, hmem, ?_, rfl, rfl⟩, hget⟩
  rw [hp, HostBinding.endpoint, hp]
  rfl

end Docker

/-! ## Kubernetes -/

namespace Kubernetes

/-- The endpoints that a service reports for a port. -/
def Reported (service : Service) (port : Port) (endpoint : Endpoint) (others : List Endpoint) :
    Prop :=
  ∃ spec servicePorts, service.spec = some spec ∧ spec.ports = some servicePorts ∧
    ∃ servicePort ∈ servicePorts, ∃ n, ServicePort.Assigned (.ofPort port) servicePort ∧
      servicePort.nodePort = some n ∧ endpoint = { port := toString n } ∧ others = []

/-- The ports of a service that shows all that it was created with. -/
theorem portsAgree (runnable : plan.Runnable) (parsed : Port.parseAll plan.ports = .ok ports)
    (distinct : (ports.map Port.number).Nodup) {host : String}
    {provisionLog bindLog : List (Exchange interface)} {provisioned : Except Failure Unit}
    {bound : Except Failure Instance} {service shown : Service} {created : Except Fault Unit}
    (provision : Transcript (Kubernetes.provision (plan.workload instanceId)).run provisionLog
      provisioned)
    (sent : ⟨.createService service, created⟩ ∈ provisionLog) (assigned : service.Assigned shown)
    (bind : Transcript (Kubernetes.bind host instanceId).run bindLog bound)
    (answered : ⟨.getService (serviceName instanceId), .ok shown⟩ ∈ bindLog) :
    ∃ inst, bound = .ok inst ∧ inst.internalAddress = instanceId ∧
      PortsAgree plan ports (Reported shown) inst := by
  obtain ⟨ports', parsed', rfl⟩ := (transcript_provision provision).of_createService sent
  obtain rfl := eq_of_parsedPorts parsed parsed'
  obtain ⟨answer, rfl, rfl⟩ := transcript_bind bind
  cases List.mem_singleton.mp answered
  obtain ⟨spec, servicePorts, shownPorts, hspec, hports, hshown, hassigned⟩ := assigned.ports
  cases hspec
  cases hports
  have hendpoints : (shown.spec.bind ServiceSpec.ports).getD [] = shownPorts := by
    rw [hshown]
    rfl
  -- the names come from the ports sent, their node ports from those shown
  refine ⟨_, rfl, rfl, .of_endpoints runnable parsed ?_ ?_⟩
  · intro name
    show name ∈ (endpoints _).toList.map Prod.fst ↔ _
    rw [hendpoints]
    exact mem_names_iff hassigned
  · intro port hport
    obtain ⟨servicePort, hmem, n, hport', hn, hget⟩ := get?_endpoints hassigned distinct hport
    refine ⟨_, [], ⟨_, shownPorts, hshown, rfl, servicePort, hmem, n, hport', hn, rfl, rfl⟩, ?_⟩
    show (endpoints _).get? port.digits = _
    rw [hendpoints]
    exact hget

end Kubernetes

/-! ## Both platforms -/

/-- For every plan of a loaded catalog, what a provision sends, what the platform then shows and
what a bind and a deployment make of it agree on the ports. -/
theorem ports_agree {dir : String} {freshIds : Catalog.FreshIds}
    {listing : Except OsError Listing} {catalog : Catalog}
    (loaded : Catalog.load dir freshIds listing = .ok catalog) {serviceId planId : String}
    (lookup : catalog.plan serviceId planId = .ok plan)
    (parsed : Port.parseAll plan.ports = .ok ports) (distinct : (ports.map Port.number).Nodup) :
    (∀ internalAddress externalAddress instanceId bindingId provisionLog bindLog provisioned bound
        name config created table,
      let docker := Docker.platform internalAddress externalAddress
      Transcript (docker.provision (plan.workload instanceId)).run provisionLog provisioned →
      ⟨.create name config, created⟩ ∈ provisionLog →
      Docker.Published config table →
      Transcript (docker.bind instanceId bindingId).run bindLog bound →
      ⟨.inspect instanceId, .ok ⟨some table⟩⟩ ∈ bindLog →
      ∃ inst, bound = .ok inst ∧ inst.internalAddress = internalAddress ∧
        PortsAgree plan ports (Docker.Reported table) inst) ∧
    ∀ host instanceId bindingId provisionLog bindLog provisioned bound service created shown,
      let kubernetes := Kubernetes.platform host
      Transcript (kubernetes.provision (plan.workload instanceId)).run provisionLog provisioned →
      ⟨.createService service, created⟩ ∈ provisionLog →
      Kubernetes.Service.Assigned service shown →
      Transcript (kubernetes.bind instanceId bindingId).run bindLog bound →
      ⟨.getService (Kubernetes.serviceName instanceId), .ok shown⟩ ∈ bindLog →
      ∃ inst, bound = .ok inst ∧ inst.internalAddress = instanceId ∧
        PortsAgree plan ports (Kubernetes.Reported shown) inst := by
  have runnable : plan.Runnable := ((Catalog.runnable_of_load loaded).plan lookup).2
  constructor
  · intro _ _ _ _ _ _ _ _ _ _ _ _ _ provision sent published bind shown
    exact Docker.portsAgree runnable parsed distinct provision sent published bind shown
  · intro _ _ _ _ _ _ _ _ _ _ _ provision sent assigned bind shown
    exact Kubernetes.portsAgree runnable parsed distinct provision sent assigned bind shown

/-! ### An instance of the catalog with one service -/

/-- A table that shows both ports, the second one first. -/
def ethTable : Docker.PortTable :=
  [("30303/udp", some [⟨some "0.0.0.0", some "49154"⟩]),
    ("8545/tcp", some [⟨some "0.0.0.0", some "49153"⟩, ⟨some "::", some "49155"⟩])]

theorem published_ethTable :
    Docker.Published (.ofPorts "nimak/geth" Catalog.ethPorts) ethTable where
  keys := by
    have hexposed :
        (Docker.ContainerConfig.ofPorts "nimak/geth" Catalog.ethPorts).exposedPorts.toList.map
          Prod.fst = ["30303/udp", "8545/tcp"] := by decide
    rw [hexposed]
    exact .refl _
  places key listed h := by
    simp only [ethTable, List.mem_cons, Prod.mk.injEq, List.not_mem_nil, or_false] at h
    rcases h with ⟨-, rfl⟩ | ⟨-, rfl⟩ <;> exact ⟨_, _, rfl⟩
  ports key listed h := by
    simp only [ethTable, List.mem_cons, Prod.mk.injEq, List.not_mem_nil, or_false,
      Option.some.injEq] at h
    rcases h with ⟨-, rfl⟩ | ⟨-, rfl⟩ <;> simp

theorem parsedPorts_ethPlan :
    (Catalog.ethPlan.workload "node").parsedPorts = .ok Catalog.ethPorts :=
  Workload.parsedPorts_eq_ok_iff.mpr Catalog.parseAll_ethPlan

/-- What the daemon is asked when the plan is provisioned. -/
def ethProvision : List (Exchange Docker.interface) :=
  [⟨.pull "nimak/geth", []⟩, ⟨.create "node" (.ofPorts "nimak/geth" Catalog.ethPorts), .ok ()⟩,
    ⟨.start "node", .ok ()⟩]

theorem transcript_ethProvision :
    Transcript (Docker.provision (Catalog.ethPlan.workload "node")).run ethProvision (.ok ()) := by
  unfold Docker.provision
  rw [parsedPorts_ethPlan]
  exact .ask (.ask (.ask (.done _)))

/-- The service that is sent when the plan is provisioned. -/
def ethSent : Kubernetes.Service := .ofPorts "node" Catalog.ethPorts

/-- The service after its ports have got ports of the nodes. -/
def ethShown : Kubernetes.Service :=
  { ethSent with
    spec := some
      { ports := some
          [{ port := 8545, name := some "tcp-8545", protocol := some "TCP", nodePort := some 31545
             targetPort := some (.number 8545) },
            { port := 30303, name := some "udp-30303", protocol := some "UDP"
              nodePort := some 32303 }]
        selector := Kubernetes.labels "node", kind := some "NodePort" } }

theorem assigned_ethShown : ethSent.Assigned ethShown where
  rest := rfl
  ports := ⟨_, _, _, rfl, rfl, rfl, .cons ⟨by decide, rfl, .inr rfl⟩
    (.cons ⟨by decide, rfl, .inl rfl⟩ .nil)⟩

theorem transcript_ethProvision_kubernetes :
    Transcript (Kubernetes.provision (Catalog.ethPlan.workload "node")).run
      [⟨.createPod (.ofPorts "node" "nimak/geth" Catalog.ethPorts), .ok ()⟩,
        ⟨.createService ethSent, .ok ()⟩]
      (.ok ()) :=
  Kubernetes.transcript_provision_of_ok parsedPorts_ethPlan

theorem ethPlan_ports_agree :
    (∃ inst, PortsAgree Catalog.ethPlan Catalog.ethPorts (Docker.Reported ethTable) inst) ∧
      ∃ inst, PortsAgree Catalog.ethPlan Catalog.ethPorts (Kubernetes.Reported ethShown) inst := by
  obtain ⟨docker, kubernetes⟩ := ports_agree Catalog.load_eth
    (show Catalog.ethCatalog.plan "eth" "dev" = .ok Catalog.ethPlan from rfl)
    Catalog.parseAll_ethPlan (by decide)
  obtain ⟨inst, -, -, hdocker⟩ := docker "127.0.0.1" "localhost" "node" "binding" _
    [⟨.inspect "node", .ok ⟨some ethTable⟩⟩] _ _ _ _ _ _ transcript_ethProvision
    (List.mem_cons_of_mem _ List.mem_cons_self) published_ethTable (.ask (.done _))
    List.mem_cons_self
  obtain ⟨inst', -, -, hkubernetes⟩ := kubernetes "localhost" "node" "binding" _
    [⟨.getService "svc-node", .ok ethShown⟩] _ _ _ _ _ transcript_ethProvision_kubernetes
    (List.mem_cons_of_mem _ List.mem_cons_self) assigned_ethShown (.ask (.done _))
    List.mem_cons_self
  exact ⟨⟨inst, hdocker⟩, inst', hkubernetes⟩

end ChainBroker
