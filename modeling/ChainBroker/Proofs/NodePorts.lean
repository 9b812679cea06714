import ChainBroker.Proofs.KubernetesCluster

/-!
# What a bind keeps of the ports of a service

A bind looks at the ports of a service one after the other and puts each of them, if it has a port
of the nodes, under the number that it has inside. Of several ports with one number the last one
hides the others:

1. under the number of a port stands the port of the nodes of some port with this number
   (`exists_hiding`);
2. so every port of the nodes is kept exactly if the ports with one number share theirs
   (`keeps_iff`).

A service that the broker has made shows its ports under the numbers that the plan gives them. All
of them are kept, whichever ports of the nodes the cluster hands out, exactly if these numbers are
distinct; that the ports themselves are distinct is not enough (`bind_drops`).
-/

namespace ChainBroker.Kubernetes

open Dialogue

/-! ## Numbers as texts -/

theorem natural_text_inj {m n : Nat} (h : m.repr = n.repr) : m = n := by
  have hdigits := congrArg String.toList h
  rw [Nat.toList_repr, Nat.toList_repr] at hdigits
  have hread := congrArg (Nat.ofDigitChars 10 · 0) hdigits
  simpa only [Nat.ofDigitChars_ten_toDigits] using hread

/-- Distinct numbers have distinct texts: the digits can be read again, and a sign is no digit. -/
theorem number_text_inj {a b : Int} (h : toString a = toString b) : a = b := by
  have hsign : ∀ m n : Nat, m.repr ≠ "-" ++ n.repr := by
    intro m n heq
    have hmem : '-' ∈ m.repr.toList := by simp [heq]
    rw [Nat.toList_repr] at hmem
    exact absurd (Nat.isDigit_of_mem_toDigits (by decide) (by decide) hmem) (by decide)
  rw [Int.toString_eq_repr, Int.toString_eq_repr, Int.repr_eq_if, Int.repr_eq_if] at h
  split at h <;> split at h
  · have hnatural := natural_text_inj h
    omega
  · exact absurd h (hsign _ _)
  · exact absurd h.symm (hsign _ _)
  · have hnatural := natural_text_inj ((String.append_right_inj "-").mp h)
    omega

/-! ## Ports with one number -/

variable {ports : List ServicePort} {port : ServicePort} {n : Int}

/-- The ports with one internal number have the same port of the nodes, where they have one. -/
def Agreeing (ports : List ServicePort) : Prop :=
  ∀ port ∈ ports, ∀ other ∈ ports, port.internalPort = other.internalPort →
    ∀ n m, port.nodePort = some n → other.nodePort = some m → n = m

/-- The instance has every port of the nodes, under the internal number of its port. -/
def Keeps (inst : Instance) (ports : List ServicePort) : Prop :=
  ∀ port ∈ ports, ∀ n, port.nodePort = some n →
    ∃ found, inst.endpoints.get? (toString port.internalPort) = some found ∧
      ∃ endpoint ∈ found, endpoint.port = toString n

theorem entry?_eq_some_iff {entry : String × List Endpoint} :
    port.entry? = some entry ↔
      ∃ n, port.nodePort = some n ∧
        entry = (toString port.internalPort, [{ port := toString n }]) := by
  unfold ServicePort.entry?
  rw [Option.map_eq_some_iff]
  exact exists_congr fun n => and_congr_right fun _ => eq_comm

/-- Under the number of a port stands the port of the nodes of some port with this number. -/
theorem exists_hiding (h : port ∈ ports) (hn : port.nodePort = some n) :
    ∃ other ∈ ports, other.internalPort = port.internalPort ∧ ∃ m, other.nodePort = some m ∧
      (endpoints ports).get? (toString port.internalPort) = some [{ port := toString m }] := by
  have hentry : (toString port.internalPort, [{ port := toString n }]) ∈
      ports.filterMap ServicePort.entry? :=
    List.mem_filterMap.mpr ⟨port, h, entry?_eq_some_iff.mpr ⟨n, hn, rfl⟩⟩
  have hname : toString port.internalPort ∈ (endpoints ports).toList.map Prod.fst := by
    rw [endpoints_eq, Table.mem_names_ofList_iff]
    exact List.mem_map.mpr ⟨_, hentry, rfl⟩
  obtain ⟨found, hfound⟩ := Option.isSome_iff_exists.mp ((Table.mem_names_iff _).mp hname)
  obtain ⟨other, hother, hlast⟩ :=
    List.mem_filterMap.mp (Table.exists_mem_of_get?_ofList (endpoints_eq ▸ hfound))
  obtain ⟨m, hm, heq⟩ := entry?_eq_some_iff.mp hlast
  obtain ⟨hnumber, rfl⟩ := Prod.ext_iff.mp heq
  exact ⟨other, hother, (number_text_inj hnumber).symm, m, hm, hfound⟩

variable {host instanceId : String}

/-- No port of the nodes is lost exactly if the ports with one number share theirs. -/
theorem keeps_iff : Keeps ⟨instanceId, host, endpoints ports⟩ ports ↔ Agreeing ports := by
  constructor
  · intro keeps port hport other hother hnumber n m hn hm
    obtain ⟨found, hfound, first, hfirst, hfirstPort⟩ := keeps port hport n hn
    obtain ⟨found', hfound', second, hsecond, hsecondPort⟩ := keeps other hother m hm
    obtain ⟨_, _, _, k, _, hget⟩ := exists_hiding hport hn
    -- both are found in one and the same list, which has a single place
    rw [← hnumber, hget] at hfound'
    rw [hget] at hfound
    cases hfound
    cases hfound'
    rw [List.mem_singleton] at hfirst hsecond
    rw [hfirst] at hfirstPort
    rw [hsecond] at hsecondPort
    exact number_text_inj (hfirstPort.symm.trans hsecondPort)
  · intro agreeing port hport n hn
    obtain ⟨other, hother, hnumber, m, hm, hget⟩ := exists_hiding hport hn
    refine ⟨_, hget, _, List.mem_singleton_self _, ?_⟩
    rw [agreeing other hother port hport hnumber m n hm hn]

/-! ## Services that the broker has made -/

/-- The ports of a service, of which there may be none. -/
def Service.shownPorts (service : Service) : List ServicePort :=
  (service.spec.bind ServiceSpec.ports).getD []

theorem map_internalPort {ports : List Port} {shown : List ServicePort}
    (h : List.Forall₂ ServicePort.Assigned (ports.map .ofPort) shown) :
    shown.map ServicePort.internalPort = ports.map fun port => (port.number : Int) := by
  induction ports generalizing shown with
  | nil =>
    cases h
    rfl
  | cons port ports ih =>
    cases h with
    | cons first others => rw [List.map_cons, List.map_cons, first.internalPort, ih others]

theorem Service.Assigned.shownPorts {ports : List Port} {shown : Service}
    (h : (Service.ofPorts instanceId ports).Assigned shown) :
    List.Forall₂ ServicePort.Assigned (ports.map .ofPort) shown.shownPorts := by
  obtain ⟨spec, sent, shownPorts, hspec, hsent, hshown, assigned⟩ := h.ports
  cases hspec
  cases hsent
  unfold Service.shownPorts
  rw [hshown]
  exact assigned

/-- However a cluster hands out its ports, those for distinct numbers do not hide each other. -/
theorem agreeing_of_nodup {ports : List Port} {shown : Service}
    (h : (Service.ofPorts instanceId ports).Assigned shown)
    (distinct : (ports.map Port.number).Nodup) : Agreeing shown.shownPorts := by
  have hnodup : (shown.shownPorts.map ServicePort.internalPort).Nodup := by
    rw [map_internalPort h.shownPorts]
    have hcast := distinct.map (f := Int.ofNat) fun _ _ => Int.ofNat.inj
    rwa [List.map_map] at hcast
  intro port hport other hother hnumber n m hn hm
  rw [List.inj_on_of_nodup_map hnodup hport hother hnumber, hm] at hn
  exact (Option.some.inj hn).symm

/-- A cluster may hand out a different port to each port of a service, and then no number may
occur twice. -/
theorem nodup_of_agreeing {ports : List Port}
    (h : Agreeing ((Service.ofPorts instanceId ports).published fun n => n).shownPorts) :
    (ports.map Port.number).Nodup := by
  replace h : Agreeing ((ports.map ServicePort.ofPort).mapIdx fun n port =>
    { port with nodePort := some (n : Int) }) := h
  have hmem : ∀ n (hn : n < ports.length),
      { ServicePort.ofPort ports[n] with nodePort := some (n : Int) } ∈
        (ports.map ServicePort.ofPort).mapIdx fun n port =>
          { port with nodePort := some (n : Int) } := by
    intro n hn
    exact List.mem_mapIdx.mpr ⟨n, by rwa [List.length_map], by rw [List.getElem_map]⟩
  rw [List.Nodup, List.pairwise_map, List.pairwise_iff_getElem]
  intro i j hi hj hlt hnumber
  have heq : (i : Int) = j :=
    h _ (hmem i hi) _ (hmem j hj) (congrArg Nat.cast hnumber) _ _ rfl rfl
  omega

/-! ## Binds -/

/-- The instance is what a bind gives when the cluster answers with the service. -/
def Gives (host instanceId : String) (service : Service) (inst : Instance) : Prop :=
  Transcript (bind host instanceId).run
    [⟨.getService (serviceName instanceId), .ok service⟩] (.ok inst)

theorem gives_iff {service : Service} {inst : Instance} :
    Gives host instanceId service inst ↔
      inst = ⟨instanceId, host, endpoints service.shownPorts⟩ := by
  constructor
  · intro h
    obtain ⟨shown, hlog, hresult⟩ := transcript_bind h
    cases hlog
    cases hresult
    rfl
  · rintro rfl
    exact .ask (.done _)

/-- **A bind keeps the ports of the nodes that a service shows exactly if the ports with one
internal number share theirs.** For the services that are made for a plan, whatever the cluster
hands out, it does so exactly if no two ports of the plan have one number. -/
theorem bind_keeps_iff (host instanceId : String) :
    (∀ service : Service, ∃ inst, (∀ other, Gives host instanceId service other ↔ other = inst) ∧
      (Keeps inst service.shownPorts ↔ Agreeing service.shownPorts)) ∧
    ∀ ports : List Port,
      (∀ shown, (Service.ofPorts instanceId ports).Assigned shown →
        ∃ inst, Gives host instanceId shown inst ∧ Keeps inst shown.shownPorts) ↔
      (ports.map Port.number).Nodup := by
  refine ⟨fun service => ⟨_, fun other => gives_iff, keeps_iff⟩, fun ports => ⟨fun h => ?_, ?_⟩⟩
  · obtain ⟨inst, gives, keeps⟩ := h _ (assigned_published instanceId ports fun n => n)
    rw [gives_iff.mp gives, keeps_iff] at keeps
    exact nodup_of_agreeing keeps
  · intro distinct shown assigned
    exact ⟨_, gives_iff.mpr rfl, keeps_iff.mpr (agreeing_of_nodup assigned distinct)⟩

/-- Two distinct ports with one number. -/
def twoProtocols : List Port :=
  [{ number := 9000, protocol := .tcp }, { number := 9000, protocol := .udp }]

/-- The service for these ports when each of them has got a port of the nodes of its own. -/
def twoProtocolsShown : Service :=
  (Service.ofPorts "inst-1" twoProtocols).published fun n => 31900 + n

/-- A bind drops one of the two. -/
theorem bind_drops :
    twoProtocols.Nodup ∧ (Service.ofPorts "inst-1" twoProtocols).Assigned twoProtocolsShown ∧
      ¬∃ inst, Gives "10.0.0.1" "inst-1" twoProtocolsShown inst ∧
        Keeps inst twoProtocolsShown.shownPorts := by
  refine ⟨by decide, assigned_published _ _ _, ?_⟩
  rintro ⟨inst, gives, keeps⟩
  obtain ⟨only, unique, kept⟩ := (bind_keeps_iff "10.0.0.1" "inst-1").1 twoProtocolsShown
  rw [(unique inst).mp gives, kept] at keeps
  have heq := keeps _ List.mem_cons_self _ (.tail _ List.mem_cons_self) rfl 31900 31901 rfl rfl
  exact absurd heq (by decide)

end ChainBroker.Kubernetes
