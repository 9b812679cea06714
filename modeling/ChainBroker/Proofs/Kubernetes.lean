import ChainBroker.Kubernetes.Platform
import ChainBroker.Proofs.Dialogue
import ChainBroker.Proofs.Port
import ChainBroker.Proofs.Table
import Mathlib.Data.List.Nodup

/-!
# The courses of the Kubernetes platform

A pod is created and then its service; a bind is one look at the service, whose ports are read by
the numbers that they have inside.

* `Kubernetes.Provisioned` lists what is said in a provision, and `Kubernetes.transcript_provision`
  says that there is nothing else.
* `Kubernetes.Service.Assigned` is a service as a cluster shows it after it has given every port a
  port of the nodes. If the numbers of the ports are distinct, every one of them is found in it
  (`Kubernetes.get?_endpoints`).
-/

namespace ChainBroker.Kubernetes

open Dialogue Attempt

variable {log : List (Exchange interface)}

/-! ## Provisions -/

/-- What is said when a workload is provisioned, and what it ends with. -/
inductive Provisioned (w : Workload) : List (Exchange interface) → Except Failure Unit → Prop where
  /-- A text of the ports is no port. -/
  | badPort {e : Failure} (parsed : w.parsedPorts = .error e) : Provisioned w [] (.error e)
  /-- The pod cannot be created. -/
  | podless {ports : List Port} (parsed : w.parsedPorts = .ok ports) (cause : Fault) :
    Provisioned w [⟨.createPod (.ofPorts w.name w.image ports), .error cause⟩]
      (.error (.kubernetes cause))
  /-- The pod is created, and its service if that can be done. -/
  | pod {ports : List Port} (parsed : w.parsedPorts = .ok ports) (created : Except Fault Unit) :
    Provisioned w
      [⟨.createPod (.ofPorts w.name w.image ports), .ok ()⟩,
        ⟨.createService (.ofPorts w.name ports), created⟩]
      (created.mapError .kubernetes)

/-- A provision takes one of the courses. -/
theorem transcript_provision {w : Workload} {r : Except Failure Unit}
    (h : Transcript (provision w).run log r) : Provisioned w log r := by
  unfold provision at h
  cases parsed : w.parsedPorts with
  | error e =>
    rw [parsed, ofExcept_error_bind] at h
    obtain ⟨rfl, rfl⟩ := transcript_throw_iff.mp h
    exact .badPort parsed
  | ok ports =>
    rw [parsed, ofExcept_ok_bind] at h
    obtain ⟨created, rest, rfl, h1⟩ := transcript_question_bind_iff.mp h
    cases created with
    | error cause =>
      rw [ofExcept_error_bind] at h1
      obtain ⟨rfl, rfl⟩ := transcript_throw_iff.mp h1
      exact .podless parsed cause
    | ok =>
      rw [ofExcept_ok_bind] at h1
      obtain ⟨created, rest, rfl, h2⟩ := transcript_question_bind_iff.mp h1
      obtain ⟨rfl, rfl⟩ := transcript_ofExcept_iff.mp h2
      exact .pod parsed created

/-- The pod and the service are created. -/
theorem transcript_provision_of_ok {w : Workload} {ports : List Port}
    (parsed : w.parsedPorts = .ok ports) :
    Transcript (provision w).run
      [⟨.createPod (.ofPorts w.name w.image ports), .ok ()⟩,
        ⟨.createService (.ofPorts w.name ports), .ok ()⟩] (.ok ()) := by
  unfold provision
  rw [parsed]
  exact .ask (.ask (.done _))

theorem Provisioned.of_createPod {w : Workload} {r : Except Failure Unit}
    (h : Provisioned w log r) {pod : Pod} {created : Except Fault Unit}
    (hmem : ⟨.createPod pod, created⟩ ∈ log) :
    ∃ ports, w.parsedPorts = .ok ports ∧ pod = .ofPorts w.name w.image ports := by
  cases h with
  | badPort => simp at hmem
  | podless parsed | pod parsed =>
    simp at hmem
    exact ⟨_, parsed, hmem.1⟩

theorem Provisioned.of_createService {w : Workload} {r : Except Failure Unit}
    (h : Provisioned w log r) {service : Service} {created : Except Fault Unit}
    (hmem : ⟨.createService service, created⟩ ∈ log) :
    ∃ ports, w.parsedPorts = .ok ports ∧ service = .ofPorts w.name ports := by
  cases h with
  | badPort | podless => simp at hmem
  | pod parsed =>
    simp at hmem
    exact ⟨_, parsed, hmem.1⟩

/-- A provision fails with what the cluster says, or because a text is no port. -/
theorem Provisioned.of_error {w : Workload} {e : Failure} (h : Provisioned w log (.error e)) :
    (∃ cause, e = .kubernetes cause) ∨ w.parsedPorts = .error e := by
  generalize hr : (Except.error e : Except Failure Unit) = r at h
  cases h with
  | badPort parsed =>
    cases hr
    exact .inr parsed
  | podless _ cause =>
    cases hr
    exact .inl ⟨cause, rfl⟩
  | pod _ created =>
    cases created with
    | ok => cases hr
    | error cause =>
      cases hr
      exact .inl ⟨cause, rfl⟩

/-! ## Binds -/

/-- A bind is one look at the service. -/
theorem transcript_bind {host instanceId : String} {r : Except Failure Instance}
    (h : Transcript (bind host instanceId).run log r) :
    ∃ shown, log = [⟨.getService (serviceName instanceId), shown⟩] ∧
      r = (shown.mapError .kubernetes).map fun service =>
        { internalAddress := instanceId, externalAddress := host
          endpoints := endpoints ((service.spec.bind ServiceSpec.ports).getD []) } := by
  obtain ⟨shown, rest, rfl, h1⟩ := transcript_question_bind_iff.mp h
  cases shown with
  | error cause =>
    rw [ofExcept_error_bind] at h1
    obtain ⟨rfl, rfl⟩ := transcript_throw_iff.mp h1
    exact ⟨.error cause, rfl, rfl⟩
  | ok service =>
    rw [ofExcept_ok_bind] at h1
    obtain ⟨rfl, rfl⟩ := transcript_pure_iff.mp h1
    exact ⟨.ok service, rfl, rfl⟩

/-! ## Services as a cluster shows them -/

/-- A port of a service after it has got a port of the nodes. -/
structure ServicePort.Assigned (sent shown : ServicePort) : Prop where
  /-- Nothing but these two fields is changed. -/
  rest : shown = { sent with nodePort := shown.nodePort, targetPort := shown.targetPort }
  /-- There is a port of the nodes. -/
  nodePort : shown.nodePort.isSome
  /-- The port leads to the same number of the pod. -/
  target : shown.targetPort = none ∨ shown.targetPort = some (.number sent.port)

/-- A service after each of its ports has got a port of the nodes. -/
structure Service.Assigned (sent shown : Service) : Prop where
  /-- Nothing but the ports is changed. -/
  rest : shown = { sent with spec := shown.spec }
  /-- The ports are those that were sent. -/
  ports : ∃ spec ports shownPorts, sent.spec = some spec ∧ spec.ports = some ports ∧
    shown.spec = some { spec with ports := some shownPorts } ∧
    List.Forall₂ ServicePort.Assigned ports shownPorts

/-- Inside, the port has the number that it was sent with. -/
theorem ServicePort.Assigned.internalPort {port : Port} {shown : ServicePort}
    (h : Assigned (.ofPort port) shown) : shown.internalPort = port.number := by
  have hport : shown.port = port.number := by rw [h.rest, ofPort]
  unfold ServicePort.internalPort
  rcases h.target with htarget | htarget
  · rw [htarget, hport]
  · rw [htarget]
    rfl

variable {ports : List Port} {shown : List ServicePort}

/-- The entry that a port of a service makes, if it has a port of the nodes. -/
def ServicePort.entry? (port : ServicePort) : Option (String × List Endpoint) :=
  port.nodePort.map fun nodePort => (toString port.internalPort, [{ port := toString nodePort }])

theorem endpoints_eq : endpoints shown = Table.ofList (shown.filterMap ServicePort.entry?) := rfl

theorem ServicePort.Assigned.entry?_eq {port : Port} {shown : ServicePort}
    (h : Assigned (.ofPort port) shown) :
    ∃ n, shown.nodePort = some n ∧ shown.entry? = some (port.digits, [{ port := toString n }]) := by
  obtain ⟨n, hn⟩ := Option.isSome_iff_exists.mp h.nodePort
  refine ⟨n, hn, ?_⟩
  unfold ServicePort.entry?
  rw [hn, h.internalPort]
  rfl

theorem map_fst_entries (h : List.Forall₂ ServicePort.Assigned (ports.map .ofPort) shown) :
    (shown.filterMap ServicePort.entry?).map Prod.fst = ports.map Port.digits := by
  induction ports generalizing shown with
  | nil =>
    cases h
    rfl
  | cons port ports ih =>
    cases h with
    | cons first others =>
      obtain ⟨n, -, hentry⟩ := first.entry?_eq
      rw [List.filterMap_cons_some hentry, List.map_cons, List.map_cons, ih others]

/-- The numbers under which ports are found are those of the ports. -/
theorem mem_names_iff (h : List.Forall₂ ServicePort.Assigned (ports.map .ofPort) shown)
    {number : String} :
    number ∈ (endpoints shown).toList.map Prod.fst ↔ ∃ port ∈ ports, port.digits = number := by
  rw [endpoints_eq, Table.mem_names_ofList_iff, map_fst_entries h]
  exact List.mem_map

theorem exists_assigned (h : List.Forall₂ ServicePort.Assigned (ports.map .ofPort) shown)
    {port : Port} (hport : port ∈ ports) : ∃ s ∈ shown, ServicePort.Assigned (.ofPort port) s := by
  induction ports generalizing shown with
  | nil => simp at hport
  | cons first ports ih =>
    cases h with
    | cons assigned others =>
      rcases List.mem_cons.mp hport with rfl | hport
      · exact ⟨_, List.mem_cons_self, assigned⟩
      · obtain ⟨s, hs, assigned⟩ := ih others hport
        exact ⟨s, List.mem_cons_of_mem _ hs, assigned⟩

/-- Under the number of a port stands the port of the nodes that the service shows for it. -/
theorem get?_endpoints (h : List.Forall₂ ServicePort.Assigned (ports.map .ofPort) shown)
    (distinct : (ports.map Port.number).Nodup) {port : Port} (hport : port ∈ ports) :
    ∃ s ∈ shown, ∃ n, ServicePort.Assigned (.ofPort port) s ∧ s.nodePort = some n ∧
      (endpoints shown).get? port.digits = some [{ port := toString n }] := by
  obtain ⟨s, hs, assigned⟩ := exists_assigned h hport
  obtain ⟨n, hn, hentry⟩ := assigned.entry?_eq
  refine ⟨s, hs, n, assigned, hn, Table.get?_ofList_eq_some ?_ ?_⟩
  · show ((shown.filterMap ServicePort.entry?).map Prod.fst).Nodup
    rw [map_fst_entries h]
    exact Port.nodup_digits distinct
  · exact List.mem_filterMap.mpr ⟨s, hs, hentry⟩

end ChainBroker.Kubernetes
