import ChainBroker.Proofs.Interleaving
import ChainBroker.Proofs.DockerDaemon
import ChainBroker.Proofs.KubernetesCluster

/-!
# Instances do not meet

Calls for one instance are interleaved with calls for other instances. It is shown that nothing can
be told from that by the first ones: they say and get what they would say and get among themselves,
and what is there of their instance in the end is the same.

1. A world is `Local` to a view if questions of the one kind are answered out of the view alone, and
   questions of the other kind leave the view as it is.
2. Then two scenes stay `Alike`, one with all calls and one with the calls of the first kind only:
   a turn of the first kind is taken in both, and a turn of the second kind changes nothing of what
   is compared (`Alike.run`).
3. Docker is local to the container of an instance, Kubernetes to its pod and service.
-/

namespace ChainBroker

open Dialogue

variable {I : Interface} {ι κ φ V : Type}

/-! ## Worlds that are local to a view -/

/-- The questions in `Own` see and change nothing but the view, and those in `Foreign` leave the
view as it is. -/
structure Local (w : World I) (view : w.State → V) (Own Foreign : I.Question → Prop) : Prop where
  /-- States that look the same give the same answer, and look the same afterwards. -/
  own : ∀ {c q s t}, Own q → view s = view t →
    (w.react c q s).1 = (w.react c q t).1 ∧ view (w.react c q s).2 = view (w.react c q t).2
  /-- Other questions do not change what the state looks like. -/
  foreign : ∀ {c q s}, Foreign q → view (w.react c q s).2 = view s

variable {w : World I} {view : w.State → V} {Own Foreign : I.Question → Prop}

/-- Mishaps are local, too. -/
theorem Local.faulty {fail : w.Chance → φ → (q : I.Question) → I.Answer q}
    (h : Local w view Own Foreign) : Local (w.faulty fail) view Own Foreign where
  own := by
    rintro ⟨c, mishap⟩ q s t hq hst
    cases mishap with
    | none => exact h.own hq hst
    | some mishap =>
      refine ⟨rfl, ?_⟩
      show view (if mishap.takesEffect then (w.react c q s).2 else s) =
        view (if mishap.takesEffect then (w.react c q t).2 else t)
      split
      · exact (h.own hq hst).2
      · exact hst
  foreign := by
    rintro ⟨c, mishap⟩ q s hq
    cases mishap with
    | none => exact h.foreign hq
    | some mishap =>
      show view (if mishap.takesEffect then (w.react c q s).2 else s) = view s
      split
      · exact h.foreign hq
      · rfl

/-! ## Scenes with and without the other calls -/

/-- The turns of the calls of the first kind. -/
def ownTurns (schedule : List ((ι ⊕ κ) × w.Chance)) : List (ι × w.Chance) :=
  schedule.filterMap fun t => t.1.getLeft?.map fun k => (k, t.2)

variable [DecidableEq ι] [DecidableEq κ] {ρ : ι ⊕ κ → Type} {c : Scene w ρ}
  {a : Scene w fun k : ι => ρ (.inl k)}

/-- The first scene looks like the second one to the calls that are in both. -/
structure Alike (view : w.State → V) (Own Foreign : I.Question → Prop) (c : Scene w ρ)
    (a : Scene w fun k : ι => ρ (.inl k)) : Prop where
  /-- The states look the same. -/
  state : view c.state = view a.state
  /-- The calls have come to the same point. -/
  calls : ∀ k, c.calls (.inl k) = a.calls k
  /-- They have said the same. -/
  said : ∀ k, c.said (.inl k) = a.said k
  /-- They ask for what is in view. -/
  own : ∀ k, (c.calls (.inl k)).Only Own
  /-- The others do not. -/
  foreign : ∀ k, (c.calls (.inr k)).Only Foreign

namespace Alike

theorem turn_own (h : Local w view Own Foreign) (alike : Alike view Own Foreign c a) (k : ι)
    (chance : w.Chance) : Alike view Own Foreign (c.turn (.inl k) chance) (a.turn k chance) := by
  cases hk : c.calls (.inl k) with
  | done r =>
    rw [Scene.turn_of_done hk, Scene.turn_of_done ((alike.calls k).symm.trans hk)]
    exact alike
  | ask q next =>
    have hk' : a.calls k = .ask q next := (alike.calls k).symm.trans hk
    have hown := alike.own k
    rw [hk] at hown
    -- the same question meets with the same chance, so only the rest of the state can differ
    obtain ⟨hanswer, hview⟩ := h.own (c := chance) hown.1 alike.state
    have point : ∀ l, (c.turn (.inl k) chance).calls (.inl l) = (a.turn k chance).calls l ∧
        (c.turn (.inl k) chance).said (.inl l) = (a.turn k chance).said l ∧
        ((c.turn (.inl k) chance).calls (.inl l)).Only Own := by
      intro l
      by_cases hl : l = k
      · subst hl
        rw [Scene.calls_turn_of_ask hk, Scene.calls_turn_of_ask hk', Scene.said_turn_of_ask hk,
          Scene.said_turn_of_ask hk', hanswer, alike.said l]
        exact ⟨rfl, rfl, hown.2 _⟩
      · have hne : Sum.inl l ≠ (Sum.inl k : ι ⊕ κ) := Sum.inl_injective.ne hl
        rw [Scene.calls_turn_of_ne hne, Scene.calls_turn_of_ne hl, Scene.said_turn_of_ne hne,
          Scene.said_turn_of_ne hl]
        exact ⟨alike.calls l, alike.said l, alike.own l⟩
    refine ⟨?_, fun l => (point l).1, fun l => (point l).2.1, fun l => (point l).2.2, fun l => ?_⟩
    · rw [Scene.turn_of_ask hk, Scene.turn_of_ask hk']
      exact hview
    · rw [Scene.calls_turn_of_ne Sum.inr_ne_inl]
      exact alike.foreign l

theorem turn_foreign (h : Local w view Own Foreign) (alike : Alike view Own Foreign c a) (k : κ)
    (chance : w.Chance) : Alike view Own Foreign (c.turn (.inr k) chance) a := by
  cases hk : c.calls (.inr k) with
  | done r => rwa [Scene.turn_of_done hk]
  | ask q next =>
    have hforeign := alike.foreign k
    rw [hk] at hforeign
    refine ⟨?_, fun l => ?_, fun l => ?_, fun l => ?_, fun l => ?_⟩
    · rw [Scene.turn_of_ask hk]
      exact (h.foreign hforeign.1).trans alike.state
    · rw [Scene.calls_turn_of_ne Sum.inl_ne_inr]
      exact alike.calls l
    · rw [Scene.said_turn_of_ne Sum.inl_ne_inr]
      exact alike.said l
    · rw [Scene.calls_turn_of_ne Sum.inl_ne_inr]
      exact alike.own l
    · by_cases hl : l = k
      · subst hl
        rw [Scene.calls_turn_of_ask hk]
        exact hforeign.2 _
      · rw [Scene.calls_turn_of_ne (Sum.inr_injective.ne hl)]
        exact alike.foreign l

/-- However turns are taken, the scenes stay alike. -/
theorem run (h : Local w view Own Foreign) (alike : Alike view Own Foreign c a)
    (schedule : List ((ι ⊕ κ) × w.Chance)) :
    Alike view Own Foreign (c.run schedule) (a.run (ownTurns schedule)) := by
  induction schedule generalizing c a with
  | nil => exact alike
  | cons t schedule ih =>
    obtain ⟨k, chance⟩ := t
    cases k with
    | inl k => exact ih (alike.turn_own h k chance)
    | inr k => exact ih (alike.turn_foreign h k chance)

end Alike

/-! ## Requests for an instance among other requests -/

/-- Requests before their first turns. -/
def Scene.requests (p : Platform I) (s : w.State) (requests : ι → Platform.Request) :
    Scene w fun k => Except Failure (requests k).task.Result :=
  .start s fun k => (requests k).on p

/-- Tasks for one instance beside other requests. -/
def Platform.beside (i : String) (own : ι → Platform.Task) (others : κ → Platform.Request) :
    ι ⊕ κ → Platform.Request :=
  Sum.elim (fun k => ⟨i, own k⟩) others

variable {p : Platform I} {i : String} {own : ι → Platform.Task} {others : κ → Platform.Request}

theorem alike_requests (h : Local w view Own Foreign) (hown : ∀ k, ((own k).on p i).Only Own)
    (hothers : ∀ k, ((others k).on p).Only Foreign) (s : w.State)
    (schedule : List ((ι ⊕ κ) × w.Chance)) :
    Alike view Own Foreign ((Scene.requests p s (Platform.beside i own others)).run schedule)
      ((Scene.requests p s fun k => ⟨i, own k⟩).run (ownTurns schedule)) := by
  refine Alike.run h ?_ schedule
  exact ⟨rfl, fun _ => rfl, fun _ => rfl, hown, hothers⟩

/-- The questions about an instance, and those about any other one, at a daemon. -/
theorem Docker.local_container (i : String) :
    Local Docker.daemon (fun s : Store Docker.Container => s i) (Docker.Concerns i)
      (fun q => ∃ j, j ≠ i ∧ Docker.Concerns j q) := by
  refine Local.faulty ⟨fun hq hst => Docker.serve_congr hq hst, ?_⟩
  rintro c q s ⟨j, hj, hq⟩
  exact Docker.serve_of_ne hq hj.symm

/-- The questions about an instance, and those about any other one, at a cluster. -/
theorem Kubernetes.local_objects (i : String) :
    Local Kubernetes.cluster (fun s : Kubernetes.Objects => s.ofInstance i) (Kubernetes.Concerns i)
      (fun q => ∃ j, j ≠ i ∧ Kubernetes.Concerns j q) := by
  refine Local.faulty ⟨fun hq hst => Kubernetes.serve_congr hq hst, ?_⟩
  rintro c q s ⟨j, hj, hq⟩
  exact Kubernetes.serve_of_ne hq hj.symm

/-! ## Selectors -/

namespace Kubernetes

/-- The service leads to the pod: the pod has all the labels of its selector. A service without a
selector leads nowhere. -/
def Service.Selects (service : Service) (pod : Pod) : Prop :=
  ∃ spec, service.spec = some spec ∧ spec.selector ≠ [] ∧
    ∀ label ∈ spec.selector, pod.labels.lookup label.1 = some label.2

theorem selects_iff {i j image : String} {ports ports' : List Port} :
    (Service.ofPorts i ports).Selects (.ofPorts j image ports') ↔ i = j := by
  constructor
  · rintro ⟨spec, hspec, -, hlabels⟩
    cases hspec
    -- the label that holds the id is enough to tell instances apart
    have happ := hlabels ("app", i) List.mem_cons_self
    exact (Option.some.inj happ).symm
  · rintro rfl
    refine ⟨_, rfl, List.cons_ne_nil _ _, fun label hlabel => ?_⟩
    rcases List.mem_cons.mp hlabel with rfl | hlabel
    · rfl
    · rw [List.mem_singleton.mp hlabel]
      rfl

end Kubernetes

/-! ## Both platforms -/

/-- Tasks for an instance come to the same, and leave the same of it, whether or not other instances
are dealt with in between, and whatever goes wrong; a service leads to the pod of its own instance
and to no other. -/
theorem instances_isolated (i : String) (own : ι → Platform.Task) (others : κ → Platform.Request)
    (apart : ∀ k, (others k).instanceId ≠ i) :
    (∀ internalAddress externalAddress (s : Store Docker.Container)
        (schedule : List ((ι ⊕ κ) × Docker.daemon.Chance)),
      let p := Docker.platform internalAddress externalAddress
      let together := (Scene.requests (w := Docker.daemon) p s
        (Platform.beside i own others)).run schedule
      let alone := (Scene.requests (w := Docker.daemon) p s fun k => ⟨i, own k⟩).run
        (ownTurns schedule)
      (∀ k, together.calls (.inl k) = alone.calls k ∧ together.said (.inl k) = alone.said k) ∧
        together.state i = alone.state i) ∧
    (∀ host (s : Kubernetes.Objects) (schedule : List ((ι ⊕ κ) × Kubernetes.cluster.Chance)),
      let p := Kubernetes.platform host
      let together := (Scene.requests (w := Kubernetes.cluster) p s
        (Platform.beside i own others)).run schedule
      let alone := (Scene.requests (w := Kubernetes.cluster) p s fun k => ⟨i, own k⟩).run
        (ownTurns schedule)
      (∀ k, together.calls (.inl k) = alone.calls k ∧ together.said (.inl k) = alone.said k) ∧
        together.state.pods i = alone.state.pods i ∧
        together.state.services (Kubernetes.serviceName i) =
          alone.state.services (Kubernetes.serviceName i)) ∧
    (∀ j image ports ports',
      (Kubernetes.Service.ofPorts i ports).Selects (.ofPorts j image ports') ↔ i = j) := by
  refine ⟨fun internalAddress externalAddress s schedule => ?_, fun host s schedule => ?_,
    fun j image ports ports' => Kubernetes.selects_iff⟩
  · -- the others concern objects of other names, so no turn of theirs is seen
    have alike := alike_requests (Docker.local_container i)
      (fun k => Docker.only_concerns internalAddress externalAddress i (own k))
      (fun k => (Docker.only_concerns internalAddress externalAddress (others k).instanceId
        (others k).task).mono fun _ hq => ⟨_, apart k, hq⟩) s schedule
    exact ⟨fun k => ⟨alike.calls k, alike.said k⟩, alike.state⟩
  · have alike := alike_requests (Kubernetes.local_objects i)
      (fun k => Kubernetes.only_concerns host i (own k))
      (fun k => (Kubernetes.only_concerns host (others k).instanceId (others k).task).mono
        fun _ hq => ⟨_, apart k, hq⟩) s schedule
    obtain ⟨hpod, hservice⟩ := Prod.ext_iff.mp alike.state
    exact ⟨fun k => ⟨alike.calls k, alike.said k⟩, hpod, hservice⟩

/-- Four turns in which two instances are provisioned, one of them named like the service of the
other one. -/
def twoProvisions : List ((Fin 1 ⊕ Fin 1) × Kubernetes.cluster.Chance) :=
  [.inl 0, .inr 0, .inl 0, .inr 0].map fun k => (k, default, none)

/-- An instance is provisioned beside one that is named like its service. -/
theorem provisioned_beside_service_name :
    let others : Fin 1 → Platform.Request := fun _ => ⟨"svc-a", .provision "nimak/geth" []⟩
    let together := (Scene.requests (w := Kubernetes.cluster) (Kubernetes.platform "12.34.56.78")
      .empty (Platform.beside "a" (fun _ : Fin 1 => .provision "nimak/geth" []) others)).run
      twoProvisions
    (∀ k, (others k).instanceId ≠ "a") ∧ together.calls (.inl 0) = .done (.ok ()) ∧
      together.state.pods "a" = some (.ofPorts "a" "nimak/geth" []) := by
  intro others together
  have apart : ∀ k, (others k).instanceId ≠ "a" := by
    intro k
    show "svc-a" ≠ "a"
    decide
  obtain ⟨-, hkubernetes, -⟩ := instances_isolated "a" (fun _ : Fin 1 => .provision "nimak/geth" [])
    others apart
  obtain ⟨hcalls, hpod, -⟩ := hkubernetes "12.34.56.78" .empty twoProvisions
  exact ⟨apart, (hcalls 0).1.trans rfl, hpod.trans rfl⟩

end ChainBroker
