import ChainBroker.Proofs.KubernetesCluster

/-!
# Pods and services come in pairs

An instance is made by two calls and removed by two, and none of them is taken back if the other one
fails. What can still be relied upon:

1. Whatever happens, every service leads to the pods of the instance after which it is named
   (`Kubernetes.ServicesLead`, kept by every single question).
2. As long as nothing goes wrong, there is a pod exactly if there is its service
   (`Kubernetes.Paired`, kept by every whole request).
3. Whatever has gone wrong before, a deprovision whose calls do not fail leaves nothing of the
   instance, and it can be provisioned again.
-/

namespace ChainBroker.Kubernetes

open Dialogue

variable {s : Objects} {i : String}

/-! ## Services lead to their instances -/

/-- The service of an instance: it has its name and leads to the pods with its labels. -/
structure Service.LeadsTo (service : Service) (instanceId : String) : Prop where
  /-- The name is made of the id. -/
  name : service.name = serviceName instanceId
  /-- The selector consists of the labels of the instance. -/
  selector : ∃ spec, service.spec = some spec ∧ spec.selector = Kubernetes.labels instanceId

theorem leadsTo_published (ports : List Port) (nodePorts : Nat → Int) :
    ((Service.ofPorts i ports).published nodePorts).LeadsTo i :=
  ⟨rfl, _, rfl, rfl⟩

/-- Every service is the one of an instance. -/
def ServicesLead (s : Objects) : Prop :=
  ∀ name service, s.services name = some service → ∃ i, name = serviceName i ∧ service.LeadsTo i

theorem ServicesLead.leadsTo (h : ServicesLead s) {service : Service}
    (found : s.services (serviceName i) = some service) : service.LeadsTo i := by
  obtain ⟨i', hname, leads⟩ := h _ _ found
  rwa [serviceName_injective hname]

/-- It is enough to look at what is left under the name of the service. -/
theorem ServicesLead.visitService {β : Type} {f : Option Service → β × Option Service}
    (h : ServicesLead s)
    (hf : ∀ service, (f (s.services (serviceName i))).2 = some service → service.LeadsTo i) :
    ServicesLead (s.visitService (serviceName i) f).2 := by
  intro name service found
  have hservices : (s.visitService (serviceName i) f).2.services =
      Function.update s.services (serviceName i) (f (s.services (serviceName i))).2 := rfl
  rw [hservices] at found
  by_cases hname : name = serviceName i
  · subst hname
    rw [Function.update_self] at found
    exact ⟨i, rfl, hf service found⟩
  · rw [Function.update_of_ne hname] at found
    exact h name service found

theorem ServicesLead.serve {call : Call} (hcall : Concerns i call) (choice : Choice)
    (h : ServicesLead s) : ServicesLead (serve choice call s).2 := by
  -- only visits to services matter: they leave a service that leads to its pod, or none
  cases hcall with
  | makes hmakes =>
    cases hmakes with
    | createPod => exact h
    | createService ports =>
      refine h.visitService fun service left => ?_
      cases found : s.services (serviceName i) with
      | none =>
        rw [found] at left
        cases left
        exact leadsTo_published ports choice.nodePorts
      | some other =>
        rw [found] at left
        cases left
        exact h.leadsTo found
  | deletePod => exact h
  | deleteService =>
    refine h.visitService fun service left => ?_
    rw [delete_snd] at left
    cases left
  | getService =>
    refine h.visitService fun service left => ?_
    cases found : s.services (serviceName i) with
    | none =>
      rw [found] at left
      cases left
    | some other =>
      rw [found] at left
      cases left
      exact h.leadsTo found

theorem servicesLead_after (host : String) (history : History cluster) :
    ServicesLead (cluster.after (platform host) history .empty) := by
  refine World.after_keeps (fun call _ s h => ?_) (fun _ _ found => nomatch found)
  refine (only_concerns host call.1.instanceId call.1.task).keeps ?_ h
  exact fun chance q s hq hs => World.faulty_keeps (fun choice s => .serve hq choice) chance s hs

/-! ## Pods have their services -/

/-- There is a pod exactly if there is its service. -/
def Paired (s : Objects) : Prop :=
  ∀ i, (s.pods i).isSome ↔ (s.services (serviceName i)).isSome

/-- Both objects of an instance may be put in place, or both removed. -/
theorem Paired.update (h : Paired s) {pod : Option Pod} {service : Option Service}
    (both : pod.isSome ↔ service.isSome) :
    Paired ⟨Function.update s.pods i pod, Function.update s.services (serviceName i) service⟩ := by
  intro j
  by_cases hj : j = i
  · subst hj
    simpa using both
  · simpa [Function.update_of_ne hj, Function.update_of_ne (serviceName_injective.ne hj)] using h j

theorem Paired.provision {w : Workload} (h : Paired s) {result : Except Failure Unit × Objects}
    (provided : Provided w s result) : Paired result.2 := by
  cases provided with
  | badPort | podTaken => exact h
  | serviceTaken _ free found =>
    -- a service without a pod is what the pairing excludes
    have hpod := (h w.name).mpr (by rw [found]; rfl)
    rw [free] at hpod
    cases hpod
  | made => exact h.update (by simp)

theorem Paired.request (host : String) (r : Platform.Request) (luck : Nat → Choice) (h : Paired s) :
    Paired (reliable.hold (r.on (platform host)) luck s).2 := by
  obtain ⟨instanceId, task⟩ := r
  cases task with
  | provision image ports => exact h.provision (hold_provision _ luck s)
  | deprovision =>
    have hheld := hold_deprovision instanceId luck s
    show Paired (reliable.hold (Kubernetes.deprovision instanceId).run luck s).2
    rw [hheld]
    exact h.update (by simp)
  | bind bindingId =>
    show Paired (reliable.hold (Kubernetes.bind host instanceId).run luck s).2
    rw [hold_bind_snd]
    exact h

theorem paired_after (host : String) {history : History cluster}
    (lucky : ∀ call ∈ history, World.Lucky call.2) :
    Paired (cluster.after (platform host) history .empty) := by
  refine World.after_keeps (fun call hcall s h => ?_) (fun i => Iff.rfl)
  rw [World.hold_faulty (lucky call hcall)]
  exact h.request host call.1 _

/-! ## Instances can be made anew -/

/-- Where both names are free, an instance is made. -/
theorem hold_provision_of_free {w : Workload} {ports : List Port} {luck : Nat → Choice}
    (parsed : w.parsedPorts = .ok ports) (free : s.pods w.name = none)
    (serviceFree : s.services (serviceName w.name) = none) :
    (reliable.hold (provision w).run luck s).1 = .ok () := by
  have provided := hold_provision w luck s
  generalize reliable.hold (provision w).run luck s = result at provided ⊢
  cases provided with
  | badPort parsed' => cases parsed.symm.trans parsed'
  | podTaken _ found => cases free.symm.trans found
  | serviceTaken _ _ found => cases serviceFree.symm.trans found
  | made => rfl

/-- Every service belongs to its instance after any history, pods and services come in pairs after
one without mishaps, and an instance can be removed and made anew after any history. -/
theorem pods_paired_with_services (host : String) :
    (∀ (history : History cluster) (name : String) (service : Service),
      (cluster.after (platform host) history .empty).services name = some service →
        ∃ i, name = serviceName i ∧ service.name = name ∧
          ∃ spec, service.spec = some spec ∧
            ∀ image ports, spec.selector = (Pod.ofPorts i image ports).labels) ∧
    (∀ history : History cluster, (∀ call ∈ history, World.Lucky call.2) →
      ∀ i, ((cluster.after (platform host) history .empty).pods i).isSome ↔
        ((cluster.after (platform host) history .empty).services (serviceName i)).isSome) ∧
    (∀ (history : History cluster) (i : String) (luck : Nat → cluster.Chance), World.Lucky luck →
      let removed :=
        cluster.hold (deprovision i).run luck (cluster.after (platform host) history .empty)
      removed.1 = .ok () ∧ removed.2.pods i = none ∧
        removed.2.services (serviceName i) = none ∧
        ∀ image specs, (∃ ports, Port.parseAll specs = .ok ports) →
          ∀ luck : Nat → cluster.Chance, World.Lucky luck →
            (cluster.hold (provision ⟨i, image, specs⟩).run luck removed.2).1 = .ok ()) := by
  refine ⟨fun history name service found => ?_, fun history lucky => paired_after host lucky,
    fun history i luck lucky => ?_⟩
  · -- every history keeps that services lead to the pods of their names
    obtain ⟨i, hname, leads⟩ := servicesLead_after host history name service found
    obtain ⟨spec, hspec, hselector⟩ := leads.selector
    exact ⟨i, hname, leads.name.trans hname.symm, spec, hspec, fun _ _ => hselector⟩
  · intro removed
    have hremoved : removed = _ := (World.hold_faulty lucky _).trans (hold_deprovision i _ _)
    rw [hremoved]
    refine ⟨rfl, Function.update_self .., Function.update_self .., ?_⟩
    rintro image specs ⟨ports, hports⟩ luck' lucky'
    rw [World.hold_faulty lucky']
    exact hold_provision_of_free (w := ⟨i, image, specs⟩)
      (Workload.parsedPorts_eq_ok_iff.mpr hports) (Function.update_self ..)
      (Function.update_self ..)

/-- No mishap happens, and everything else is as simple as can be. -/
def calm : Nat → cluster.Chance := fun _ => (default, none)

/-- A pod has been created, and the creation of its service has failed. -/
def halfMade : History cluster :=
  [(⟨"inst-1", .provision "nimak/geth" []⟩, fun n =>
    (default, if n = 1 then some ⟨.unreachable "timed out", false⟩ else none))]

/-- An instance of which there is only the pod is removed and made anew. -/
theorem halfMade_made_anew :
    let s := cluster.after (platform "12.34.56.78") halfMade .empty
    let removed := cluster.hold (deprovision "inst-1").run calm s
    s.pods "inst-1" = some (.ofPorts "inst-1" "nimak/geth" []) ∧
      s.services (serviceName "inst-1") = none ∧ removed.1 = .ok () ∧
      (cluster.hold (provision ⟨"inst-1", "nimak/geth", []⟩).run calm removed.2).1 = .ok () := by
  intro s removed
  have lucky : World.Lucky calm := fun _ => rfl
  obtain ⟨-, -, hremoved⟩ := pods_paired_with_services "12.34.56.78"
  obtain ⟨hok, -, -, hanew⟩ := hremoved halfMade "inst-1" calm lucky
  exact ⟨rfl, rfl, hok, hanew "nimak/geth" [] ⟨[], rfl⟩ calm lucky⟩

end ChainBroker.Kubernetes
