import ChainBroker.Proofs.NodePorts
import ChainBroker.Proofs.PortGrammar
import ChainBroker.Proofs.PortTable

/-!
# The endpoints that a bind tells

Both platforms show the ports of an instance one after the other. A bind goes through them and puts
what it makes of each into a table, under a number and in place of what stands there already.

1. Such a table is settled by the order of the items: under each name stands the value of the last
   item that puts one there (`Table.filledBy_ofList`, `Table.FilledBy.unique`).
2. What a single item puts is said without the table. On Docker an entry puts its places under what
   stands before the first slash of its key (`Docker.Puts`); in a cluster a port of the service puts
   its port of the nodes, if it has one, under the number that it has inside (`Kubernetes.Puts`).

So all that a bind tells is settled, also where several ports have one number (`bind_tells`).
-/

namespace ChainBroker

open Dialogue

/-! ## Dialogues of one question -/

/-- A dialogue of one question goes by the answer that is given when nothing has been said. -/
theorem Dialogue.hold_of_single {I : Interface} {α : Type} {d : Dialogue I α} {q : I.Question}
    {f : I.Answer q → α}
    (single : ∀ {log r}, Transcript d log r → ∃ answer, log = [⟨q, answer⟩] ∧ r = f answer)
    (b : Behaviour I) : d.hold b = (f (b [] q), [⟨q, b [] q⟩]) := by
  obtain ⟨answer, hlog, hresult⟩ := single (transcript_hold b d)
  cases d with
  | done a => cases hlog
  | ask first next =>
    obtain ⟨rest, hfirst⟩ := hold_ask b first next
    rw [hlog] at hfirst
    cases hfirst
    exact Prod.ext hresult hlog

/-! ## Tables that are filled item by item -/

namespace Table

variable {α β : Type} {name : String} {value : β}

/-- What stands under a name is the last value that the list has for it. -/
theorem get?_ofList_eq_some_iff {l : List (String × β)} :
    (ofList l).get? name = some value ↔
      ∃ before after, l = before ++ (name, value) :: after ∧ ∀ entry ∈ after, entry.1 ≠ name := by
  rw [get?_ofList, List.lookup_eq_some_iff]
  constructor
  · rintro ⟨after, before, hl, hafter⟩
    refine ⟨before.reverse, after.reverse, ?_, fun entry hentry => ?_⟩
    · rw [List.reverse_eq_iff.mp hl]
      simp
    · exact (bne_iff_ne.mp (hafter entry (List.mem_reverse.mp hentry))).symm
  · rintro ⟨before, after, rfl, hafter⟩
    refine ⟨after.reverse, before.reverse, by simp, fun entry hentry => ?_⟩
    exact bne_iff_ne.mpr (hafter entry (List.mem_reverse.mp hentry)).symm

/-- The table holds what has come of a list whose items were gone through in order, when each of
them may put a value under a name. -/
structure FilledBy (puts : α → String → β → Prop) (items : List α) (table : Table β) : Prop where
  /-- The names are those under which some item puts a value. -/
  names : ∀ name, name ∈ table.toList.map Prod.fst ↔
    ∃ item ∈ items, ∃ value, puts item name value
  /-- Of the values that are put under a name the last one stays. -/
  values : ∀ name value, table.get? name = some value ↔
    ∃ before item after, items = before ++ item :: after ∧ puts item name value ∧
      ∀ later ∈ after, ∀ other, ¬puts later name other

variable {puts : α → String → β → Prop} {made? : α → Option (String × β)} {items : List α}
  {table table' : Table β}

/-- The entries that are made of a list fall apart where the list does. -/
theorem filterMap_eq_append_cons_iff {entry : String × β} {after : List (String × β)} :
    (∃ before, items.filterMap made? = before ++ entry :: after) ↔
      ∃ first item rest, items = first ++ item :: rest ∧ made? item = some entry ∧
        rest.filterMap made? = after := by
  constructor
  · rintro ⟨before, h⟩
    obtain ⟨first, others, rfl, -, hothers⟩ := List.filterMap_eq_append_iff.mp h
    obtain ⟨skipped, item, rest, rfl, -, hitem, hrest⟩ := List.filterMap_eq_cons_iff.mp hothers
    exact ⟨first ++ skipped, item, rest, by rw [List.append_assoc], hitem, hrest⟩
  · rintro ⟨first, item, rest, rfl, hitem, rfl⟩
    exact ⟨first.filterMap made?, by rw [List.filterMap_append, List.filterMap_cons_some hitem]⟩

/-- A list of the entries that the items make makes such a table. -/
theorem filledBy_ofList
    (h : ∀ item name value, puts item name value ↔ made? item = some (name, value))
    (items : List α) : (ofList (items.filterMap made?)).FilledBy puts items where
  names name := by
    rw [mem_names_ofList_iff]
    simp only [List.mem_map, List.mem_filterMap, h]
    constructor
    · rintro ⟨⟨name, value⟩, ⟨item, hitem, hentry⟩, rfl⟩
      exact ⟨item, hitem, value, hentry⟩
    · rintro ⟨item, hitem, value, hentry⟩
      exact ⟨(name, value), ⟨item, hitem, hentry⟩, rfl⟩
  values name value := by
    rw [get?_ofList_eq_some_iff]
    simp only [h]
    constructor
    · rintro ⟨before, after, hentries, hafter⟩
      obtain ⟨first, item, rest, hitems, hitem, rfl⟩ :=
        filterMap_eq_append_cons_iff.mp ⟨before, hentries⟩
      refine ⟨first, item, rest, hitems, hitem, fun later hlater other hother => ?_⟩
      exact hafter _ (List.mem_filterMap.mpr ⟨later, hlater, hother⟩) rfl
    · rintro ⟨first, item, rest, hitems, hitem, hrest⟩
      obtain ⟨before, hentries⟩ :=
        filterMap_eq_append_cons_iff.mpr ⟨first, item, rest, hitems, hitem, rfl⟩
      refine ⟨before, _, hentries, ?_⟩
      -- a later entry under the name would have been put there by a later item
      rintro ⟨name, other⟩ hentry rfl
      obtain ⟨later, hlater, hother⟩ := List.mem_filterMap.mp hentry
      exact hrest later hlater other hother

/-- There is only one such table. -/
theorem FilledBy.unique (h : table.FilledBy puts items) (h' : table'.FilledBy puts items) :
    table = table' := by
  refine ext_get? fun name => Option.ext fun value => ?_
  rw [h.values, h'.values]

end Table

/-! ## Docker -/

namespace Docker

/-- An entry of a table of ports puts the places that it lists under the number in its key. -/
structure Puts (entry : String × Option (List HostBinding)) (number : String)
    (endpoints : List Endpoint) : Prop where
  /-- The number is what stands before the first slash. -/
  number : ∃ protocol, Port.Parts entry.1.toList number.toList protocol
  /-- What is not told of a place is empty. -/
  endpoints : endpoints = (entry.2.getD []).map fun place =>
    { port := place.port.getD "", hostIp := place.ip.getD "" }

/-- What a bind ends with when the inspection is answered. -/
inductive Bound (internalAddress externalAddress : String) :
    Except Fault Inspection → Except Failure Instance → Prop where
  /-- The container cannot be inspected. -/
  | failed (cause : Fault) :
    Bound internalAddress externalAddress (.error cause) (.error (.docker cause))
  /-- The container has no table of ports. -/
  | portless :
    Bound internalAddress externalAddress (.ok ⟨none⟩) (.ok ⟨internalAddress, externalAddress, ∅⟩)
  /-- The entries are taken in the order in which the table is enumerated. -/
  | ports {order : PortTable} {endpoints : Table (List Endpoint)}
    (filled : endpoints.FilledBy Puts order) :
    Bound internalAddress externalAddress (.ok ⟨some order⟩)
      (.ok ⟨internalAddress, externalAddress, endpoints⟩)

theorem numberPart_eq_iff {key number : String} :
    numberPart key = number ↔ ∃ protocol, Port.Parts key.toList number.toList protocol := by
  have hsplit : numberPart key = String.ofList (Port.split key.toList).1 := by
    unfold numberPart Port.split
    rw [List.span_eq_takeWhile_dropWhile]
    cases key.toList.dropWhile (· ≠ '/') <;> rfl
  constructor
  · rintro rfl
    rw [hsplit, String.toList_ofList]
    exact ⟨_, Port.parts_split key.toList⟩
  · rintro ⟨protocol, hparts⟩
    rw [hsplit, Port.parts_iff.mp hparts, String.ofList_toList]

theorem puts_iff (entry : String × Option (List HostBinding)) (number : String)
    (endpoints : List Endpoint) :
    Puts entry number endpoints ↔
      some (numberPart entry.1, listed entry) = some (number, endpoints) := by
  rw [Option.some.injEq, Prod.mk.injEq, numberPart_eq_iff]
  exact ⟨fun h => ⟨h.number, h.endpoints.symm⟩, fun h => ⟨h.1, h.2.symm⟩⟩

/-- Every entry puts its places, also where they are none. -/
theorem endpoints_eq_filterMap (order : PortTable) :
    endpoints order =
      Table.ofList (order.filterMap fun entry => some (numberPart entry.1, listed entry)) := by
  unfold endpoints
  rw [← List.filterMap_eq_map]
  rfl

theorem filledBy_endpoints (order : PortTable) : (endpoints order).FilledBy Puts order := by
  rw [endpoints_eq_filterMap]
  exact Table.filledBy_ofList puts_iff order

/-- There is one question, and its answer settles the instance. -/
theorem hold_bind_eq (internalAddress externalAddress instanceId : String)
    (daemon : Behaviour interface) :
    let inspected := daemon [] (.inspect instanceId)
    (bind internalAddress externalAddress instanceId).run.hold daemon =
      ((inspected.mapError .docker).map fun inspection =>
        ⟨internalAddress, externalAddress, endpoints (inspection.ports.getD [])⟩,
        [⟨.inspect instanceId, inspected⟩]) :=
  hold_of_single transcript_bind daemon

theorem bound_iff {internalAddress externalAddress : String}
    {inspected : Except Fault Inspection} {r : Except Failure Instance} :
    Bound internalAddress externalAddress inspected r ↔
      r = (inspected.mapError .docker).map fun inspection =>
        ⟨internalAddress, externalAddress, endpoints (inspection.ports.getD [])⟩ := by
  constructor
  · rintro (cause | _ | filled)
    · rfl
    · rfl
    · rw [filled.unique (filledBy_endpoints _)]
      rfl
  · rintro rfl
    rcases inspected with cause | ⟨_ | order⟩
    · exact .failed cause
    · exact .portless
    · exact .ports (filledBy_endpoints order)

end Docker

/-! ## Kubernetes -/

namespace Kubernetes

/-- The number of a port inside: the one that it leads to, or its own if it leads to no number. -/
inductive ServicePort.Inside (port : ServicePort) : Int → Prop where
  /-- The target is a number. -/
  | target {n : Int} (leads : port.targetPort = some (.number n)) : port.Inside n
  /-- The target is a name, or there is none. -/
  | own (free : ∀ n, port.targetPort ≠ some (.number n)) : port.Inside port.port

/-- A port of a service puts its port of the nodes under its number inside. -/
structure Puts (port : ServicePort) (number : String) (endpoints : List Endpoint) : Prop where
  /-- The number is written in decimal. -/
  number : ∃ n, port.Inside n ∧ number = toString n
  /-- There is a port of the nodes, and it is the only endpoint. -/
  endpoints : ∃ n, port.nodePort = some n ∧ endpoints = [{ port := toString n, hostIp := "" }]

/-- What a bind ends with when the service is shown. -/
inductive Bound (host instanceId : String) :
    Except Fault Service → Except Failure Instance → Prop where
  /-- The service cannot be shown. -/
  | failed (cause : Fault) : Bound host instanceId (.error cause) (.error (.kubernetes cause))
  /-- The ports are taken in the order of the service. -/
  | ports {service : Service} {endpoints : Table (List Endpoint)}
    (filled : endpoints.FilledBy Puts service.shownPorts) :
    Bound host instanceId (.ok service) (.ok ⟨instanceId, host, endpoints⟩)

theorem ServicePort.inside_iff {port : ServicePort} {n : Int} :
    port.Inside n ↔ port.internalPort = n := by
  unfold internalPort
  constructor
  · rintro (leads | free)
    · rw [leads]
    · split
      · next m leads => exact absurd leads (free m)
      · rfl
  · rintro rfl
    split
    · next m leads => exact .target leads
    · next free => exact .own free

theorem puts_iff (port : ServicePort) (number : String) (endpoints : List Endpoint) :
    Puts port number endpoints ↔ port.entry? = some (number, endpoints) := by
  rw [entry?_eq_some_iff]
  constructor
  · rintro ⟨⟨inside, hinside, rfl⟩, n, hn, rfl⟩
    rw [← ServicePort.inside_iff.mp hinside]
    exact ⟨n, hn, rfl⟩
  · rintro ⟨n, hn, ⟨⟩⟩
    exact ⟨⟨_, ServicePort.inside_iff.mpr rfl, rfl⟩, n, hn, rfl⟩

theorem filledBy_endpoints (ports : List ServicePort) : (endpoints ports).FilledBy Puts ports := by
  rw [endpoints_eq]
  exact Table.filledBy_ofList puts_iff ports

/-- There is one question, and its answer settles the instance. -/
theorem hold_bind_eq (host instanceId : String) (cluster : Behaviour interface) :
    let shown := cluster [] (.getService (serviceName instanceId))
    (bind host instanceId).run.hold cluster =
      ((shown.mapError .kubernetes).map fun service =>
        ⟨instanceId, host, endpoints service.shownPorts⟩,
        [⟨.getService (serviceName instanceId), shown⟩]) :=
  hold_of_single transcript_bind cluster

theorem bound_iff {host instanceId : String} {shown : Except Fault Service}
    {r : Except Failure Instance} :
    Bound host instanceId shown r ↔
      r = (shown.mapError .kubernetes).map fun service =>
        ⟨instanceId, host, endpoints service.shownPorts⟩ := by
  constructor
  · rintro (cause | filled)
    · rfl
    · rw [filled.unique (filledBy_endpoints _)]
      rfl
  · rintro rfl
    cases shown with
    | error cause => exact .failed cause
    | ok service => exact .ports (filledBy_endpoints _)

end Kubernetes

/-! ## Both platforms -/

/-- **What a bind tells, on both platforms, whatever is answered.** There is one question, for the
container or for the service of the instance. The bind ends with the failure to answer it, or with
an instance that has the addresses of the platform, and endpoints that are settled by the ports in
the order in which they are shown. -/
theorem bind_tells (internalAddress externalAddress host instanceId bindingId : String)
    (daemon : Behaviour Docker.interface) (cluster : Behaviour Kubernetes.interface) :
    let onDocker := ((Docker.platform internalAddress externalAddress).bind instanceId
      bindingId).run.hold daemon
    let inspected := daemon [] (.inspect instanceId)
    let onCluster := ((Kubernetes.platform host).bind instanceId bindingId).run.hold cluster
    let shown := cluster [] (.getService ("svc-" ++ instanceId))
    onDocker.2 = [⟨.inspect instanceId, inspected⟩] ∧
    (∀ r, r = onDocker.1 ↔ Docker.Bound internalAddress externalAddress inspected r) ∧
    onCluster.2 = [⟨.getService ("svc-" ++ instanceId), shown⟩] ∧
    ∀ r, r = onCluster.1 ↔ Kubernetes.Bound host instanceId shown r := by
  intro onDocker inspected onCluster shown
  have hdocker := Docker.hold_bind_eq internalAddress externalAddress instanceId daemon
  have hcluster := Kubernetes.hold_bind_eq host instanceId cluster
  refine ⟨congrArg Prod.snd hdocker, fun r => ?_, congrArg Prod.snd hcluster, fun r => ?_⟩
  · rw [Docker.bound_iff]
    exact Eq.congr_right (congrArg Prod.fst hdocker)
  · rw [Kubernetes.bound_iff]
    exact Eq.congr_right (congrArg Prod.fst hcluster)

/-! ### Ports that hide each other -/

/-- An entry without places hides the places of an earlier one for the same number. -/
example :
    (Docker.endpoints [("30303/tcp", some [⟨none, some "49153"⟩]), ("9000", some [⟨none, none⟩]),
      ("30303/udp/x", none)]).toList = [("30303", []), ("9000", [⟨"", ""⟩])] := by decide

/-- A port with the number of another one's target hides it, unless it has no port of the nodes. -/
example :
    (Kubernetes.endpoints
      [{ port := 80, targetPort := some (.number 8545), nodePort := some 31000 },
        { port := 8545, targetPort := some (.name "rpc"), nodePort := some 31001 },
        { port := 8545 }]).toList = [("8545", [⟨"31001", ""⟩])] := by decide

end ChainBroker
