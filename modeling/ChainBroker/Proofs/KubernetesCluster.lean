import ChainBroker.Proofs.Kubernetes
import ChainBroker.Proofs.World

/-!
# A namespace of a Kubernetes cluster

A namespace keeps pods and services, both under their names and apart from each other: a pod and a
service may have one name. An object is not created under a name that is taken, and cannot be
deleted or shown if it is not there. When a service is created, each of its ports gets a port of the
nodes.

* `Kubernetes.reliable` is a cluster to which nothing happens, `Kubernetes.cluster` one whose calls
  may meet with mishaps.
* `Kubernetes.hold_provision` and `Kubernetes.hold_deprovision` say what these operations come to at
  a reliable cluster.
* `Kubernetes.Concerns` are the questions about the pod and the service of one instance. All
  operations on an instance ask nothing else (`Kubernetes.only_concerns`), and what they ask sees
  and changes these two objects only (`Kubernetes.serve_congr`, `Kubernetes.serve_of_ne`), since
  services of different instances have different names.
-/

namespace ChainBroker.Kubernetes

open Dialogue Attempt

/-! ## Objects -/

/-- The pods and the services of a namespace. -/
structure Objects where
  pods : Store Pod
  services : Store Service

namespace Objects

variable {β : Type}

/-- There are no objects. -/
def empty : Objects := ⟨Store.empty, Store.empty⟩

/-- Looks for the pod of a name, and leaves something in its place. -/
def visitPod (name : String) (f : Option Pod → β × Option Pod) (s : Objects) : β × Objects :=
  ((Store.visit name f s.pods).1, { s with pods := (Store.visit name f s.pods).2 })

/-- Looks for the service of a name, and leaves something in its place. -/
def visitService (name : String) (f : Option Service → β × Option Service) (s : Objects) :
    β × Objects :=
  ((Store.visit name f s.services).1, { s with services := (Store.visit name f s.services).2 })

section

variable {name : String} {b : β} {s : Objects}

theorem visitPod_eq {f : Option Pod → β × Option Pod} {o : Option Pod}
    (h : f (s.pods name) = (b, o)) :
    s.visitPod name f = (b, { s with pods := Function.update s.pods name o }) := by
  unfold visitPod
  rw [Store.visit_eq h]

theorem visitPod_eq_self {f : Option Pod → β × Option Pod}
    (h : f (s.pods name) = (b, s.pods name)) : s.visitPod name f = (b, s) := by
  rw [visitPod_eq h, Function.update_eq_self]

theorem visitService_eq {f : Option Service → β × Option Service} {o : Option Service}
    (h : f (s.services name) = (b, o)) :
    s.visitService name f = (b, { s with services := Function.update s.services name o }) := by
  unfold visitService
  rw [Store.visit_eq h]

theorem visitService_eq_self {f : Option Service → β × Option Service}
    (h : f (s.services name) = (b, s.services name)) : s.visitService name f = (b, s) := by
  rw [visitService_eq h, Function.update_eq_self]

end

/-- The pod and the service of an instance. -/
def ofInstance (s : Objects) (instanceId : String) : Option Pod × Option Service :=
  (s.pods instanceId, s.services (serviceName instanceId))

end Objects

/-- The answer where a name is taken. -/
def nameTaken (kind name : String) : Fault :=
  .refused ⟨"Failure", kind ++ " \"" ++ name ++ "\" already exists", "AlreadyExists", 409⟩

/-- The answer where there is no object. -/
def absent (kind name : String) : Fault :=
  .refused ⟨"Failure", kind ++ " \"" ++ name ++ "\" not found", "NotFound", 404⟩

/-! What happens to the object of a name, if there is one. -/

variable {α : Type}

/-- A new object takes a free name. -/
def create (kind name : String) (object : α) : Option α → Except Fault Unit × Option α
  | none => (.ok (), some object)
  | some other => (.error (nameTaken kind name), some other)

/-- An object is deleted. -/
def delete (kind name : String) : Option α → Except Fault Unit × Option α
  | none => (.error (absent kind name), none)
  | some _ => (.ok (), none)

/-- An object is shown. -/
def display (kind name : String) : Option α → Except Fault α × Option α
  | none => (.error (absent kind name), none)
  | some object => (.ok object, some object)

/-- The service after its ports have got ports of the nodes. -/
def Service.published (nodePorts : Nat → Int) (service : Service) : Service :=
  { service with
    spec := service.spec.map fun spec =>
      { spec with
        ports := spec.ports.map fun ports =>
          ports.mapIdx fun n port => { port with nodePort := some (nodePorts n) } } }

/-! ## Clusters -/

/-- What a cluster is free to do. -/
structure Choice where
  /-- The ports of the nodes that the ports of a new service get. -/
  nodePorts : Nat → Int
deriving Inhabited

/-- What a cluster answers, and its objects after that. -/
def serve (choice : Choice) : (call : Call) → Objects → call.Answer × Objects
  | .createPod pod, s => s.visitPod pod.name (create "pods" pod.name pod)
  | .createService service, s =>
    s.visitService service.name
      (create "services" service.name (service.published choice.nodePorts))
  | .deletePod name, s => s.visitPod name (delete "pods" name)
  | .deleteService name, s => s.visitService name (delete "services" name)
  | .getService name, s => s.visitService name (display "services" name)

/-- A cluster to which nothing happens. -/
abbrev reliable : World interface where
  State := Objects
  Chance := Choice
  react := serve

/-- How a failure is told. -/
def failed (_choice : Choice) (cause : Fault) : (call : Call) → call.Answer
  | .createPod _ | .createService _ | .deletePod _ | .deleteService _ | .getService _ =>
    .error cause

/-- A cluster all of whose calls may meet with mishaps. -/
abbrev cluster : World interface := reliable.faulty failed

/-! ## Services -/

/-- Instances with distinct ids have services with distinct names. -/
theorem serviceName_injective : Function.Injective serviceName :=
  fun _ _ h => (String.append_right_inj "svc-").mp h

/-- Ports with node ports are assigned, whatever the node ports are. -/
theorem forall₂_assigned (ports : List Port) (nodePorts : Nat → Int) :
    List.Forall₂ ServicePort.Assigned (ports.map ServicePort.ofPort)
      ((ports.map ServicePort.ofPort).mapIdx fun n port =>
        { port with nodePort := some (nodePorts n) }) := by
  induction ports generalizing nodePorts with
  | nil => exact .nil
  | cons port ports ih =>
    rw [List.map_cons, List.mapIdx_cons]
    exact .cons ⟨rfl, rfl, .inl rfl⟩ (ih fun n => nodePorts (n + 1))

/-- Nothing but the ports of the nodes is added to the service of an instance. -/
theorem assigned_published (instanceId : String) (ports : List Port) (nodePorts : Nat → Int) :
    Service.Assigned (.ofPorts instanceId ports)
      ((Service.ofPorts instanceId ports).published nodePorts) where
  rest := rfl
  ports := ⟨_, _, _, rfl, rfl, rfl, forall₂_assigned ports nodePorts⟩

/-! ## Operations at a reliable cluster -/

variable {s t : Objects} {luck : Nat → Choice} {i j : String}

/-- What a provision comes to. -/
inductive Provided (w : Workload) (s : Objects) : Except Failure Unit × Objects → Prop where
  /-- A text of the ports is no port. -/
  | badPort {e : Failure} (parsed : w.parsedPorts = .error e) : Provided w s (.error e, s)
  /-- The name of the pod is taken. -/
  | podTaken {ports : List Port} (parsed : w.parsedPorts = .ok ports) {pod : Pod}
      (found : s.pods w.name = some pod) :
    Provided w s (.error (.kubernetes (nameTaken "pods" w.name)), s)
  /-- The name of the service is taken, and the pod is left. -/
  | serviceTaken {ports : List Port} (parsed : w.parsedPorts = .ok ports)
      (free : s.pods w.name = none) {service : Service}
      (found : s.services (serviceName w.name) = some service) :
    Provided w s
      (.error (.kubernetes (nameTaken "services" (serviceName w.name))),
        { s with pods := Function.update s.pods w.name (some (.ofPorts w.name w.image ports)) })
  /-- The pod and the service are there. -/
  | made {ports : List Port} (parsed : w.parsedPorts = .ok ports) (free : s.pods w.name = none)
      (serviceFree : s.services (serviceName w.name) = none) (nodePorts : Nat → Int) :
    Provided w s
      (.ok (),
        { pods := Function.update s.pods w.name (some (.ofPorts w.name w.image ports))
          services := Function.update s.services (serviceName w.name)
            (some ((Service.ofPorts w.name ports).published nodePorts)) })

theorem serve_createPod_of_some (choice : Choice) {pod other : Pod}
    (h : s.pods pod.name = some other) :
    serve choice (.createPod pod) s = (.error (nameTaken "pods" pod.name), s) :=
  Objects.visitPod_eq_self (by rw [h, create])

theorem serve_createPod_of_none (choice : Choice) {pod : Pod} (h : s.pods pod.name = none) :
    serve choice (.createPod pod) s =
      (.ok (), { s with pods := Function.update s.pods pod.name (some pod) }) :=
  Objects.visitPod_eq (by rw [h, create])

theorem serve_createService_of_some (choice : Choice) {service other : Service}
    (h : s.services service.name = some other) :
    serve choice (.createService service) s =
      (.error (nameTaken "services" service.name), s) :=
  Objects.visitService_eq_self (by rw [h, create])

theorem serve_createService_of_none (choice : Choice) {service : Service}
    (h : s.services service.name = none) :
    serve choice (.createService service) s =
      (.ok (),
        { s with
          services := Function.update s.services service.name
            (some (service.published choice.nodePorts)) }) :=
  Objects.visitService_eq (by rw [h, create])

/-- On a reliable cluster a provision makes what its names are free for. -/
theorem hold_provision (w : Workload) (luck : Nat → Choice) (s : Objects) :
    Provided w s (reliable.hold (provision w).run luck s) := by
  unfold provision ask
  cases parsed : w.parsedPorts with
  | error e => exact .badPort parsed
  | ok ports =>
    rw [ofExcept_ok_bind]
    cases found : s.pods w.name with
    | some pod =>
      rw [World.hold_question_bind (serve_createPod_of_some (luck 0) found)]
      exact .podTaken parsed found
    | none =>
      rw [World.hold_question_bind (serve_createPod_of_none (luck 0) found), ofExcept_ok_bind]
      -- the pods do not matter for the name of the service
      cases serviceFound : s.services (serviceName w.name) with
      | some service =>
        rw [World.hold_question_bind (serve_createService_of_some (luck 1) serviceFound)]
        exact .serviceTaken parsed found serviceFound
      | none =>
        rw [World.hold_question_bind (serve_createService_of_none (luck 1) serviceFound)]
        exact .made parsed found serviceFound _

theorem delete_snd (kind name : String) (found : Option α) :
    (delete kind name found).2 = none := by
  cases found <;> rfl

/-- Whatever there is, nothing is left of the instance. -/
theorem hold_deprovision (instanceId : String) (luck : Nat → Choice) (s : Objects) :
    reliable.hold (deprovision instanceId).run luck s =
      (.ok (),
        { pods := Function.update s.pods instanceId none
          services := Function.update s.services (serviceName instanceId) none }) := by
  have hpod : ∀ choice, serve choice (.deletePod instanceId) s =
      ((delete "pods" instanceId (s.pods instanceId)).1,
        { s with pods := Function.update s.pods instanceId none }) := fun _ =>
    Objects.visitPod_eq (Prod.ext rfl (delete_snd ..))
  have hservice : ∀ choice (s : Objects), serve choice (.deleteService (serviceName instanceId)) s =
      ((delete "services" (serviceName instanceId) (s.services (serviceName instanceId))).1,
        { s with services := Function.update s.services (serviceName instanceId) none }) :=
    fun _ _ => Objects.visitService_eq (Prod.ext rfl (delete_snd ..))
  unfold deprovision ask
  rw [World.hold_question_bind (hpod (luck 0)), World.hold_question_bind (hservice (luck 1) _)]
  rfl

/-- A look at a service changes nothing. -/
theorem hold_bind_snd (host : String) : (reliable.hold (bind host i).run luck s).2 = s := by
  have hshow : serve (luck 0) (.getService (serviceName i)) s =
      ((display "services" (serviceName i) (s.services (serviceName i))).1, s) :=
    Objects.visitService_eq_self (by cases s.services (serviceName i) <;> rfl)
  unfold bind ask
  rw [World.hold_question_bind hshow]
  cases (display "services" (serviceName i) (s.services (serviceName i))).1 <;> rfl

/-! ## Questions about one instance -/

/-- The questions that are asked when the objects of an instance are made. -/
inductive Makes (instanceId : String) : Call → Prop where
  | createPod (image : String) (ports : List Port) :
    Makes instanceId (.createPod (.ofPorts instanceId image ports))
  | createService (ports : List Port) :
    Makes instanceId (.createService (.ofPorts instanceId ports))

/-- The questions that concern the pod and the service of an instance and no others. -/
inductive Concerns (instanceId : String) : Call → Prop where
  | makes {call : Call} (h : Makes instanceId call) : Concerns instanceId call
  | deletePod : Concerns instanceId (.deletePod instanceId)
  | deleteService : Concerns instanceId (.deleteService (serviceName instanceId))
  | getService : Concerns instanceId (.getService (serviceName instanceId))

/-- A provision makes nothing but objects of its instance. -/
theorem only_provision (w : Workload) : (provision w).run.Only (Makes w.name) := by
  refine only_bind only_ofExcept fun ports => ?_
  refine only_question_bind (.createPod w.image ports) fun created => ?_
  refine only_bind only_ofExcept fun _ => ?_
  exact only_question_bind (.createService ports) fun _ => only_ofExcept

/-- Nothing but they is deleted, -/
theorem only_deprovision (instanceId : String) :
    (deprovision instanceId).run.Only (Concerns instanceId) :=
  only_question_bind .deletePod fun _ => only_question_bind .deleteService fun _ => trivial

/-- and nothing but they is looked at. -/
theorem only_bind_platform (host instanceId : String) :
    (bind host instanceId).run.Only (Concerns instanceId) := by
  refine only_question_bind .getService fun shown => ?_
  exact only_bind only_ofExcept fun _ => trivial

/-- Whatever is done for an instance, only its own objects are asked about. -/
theorem only_concerns (host instanceId : String) (task : Platform.Task) :
    (task.on (platform host) instanceId).Only (Concerns instanceId) := by
  cases task with
  | provision image ports => exact (only_provision _).mono fun _ => .makes
  | deprovision => exact only_deprovision instanceId
  | bind bindingId => exact only_bind_platform host instanceId

namespace Objects

variable {β : Type}

/-- A visit to the pod of one instance changes no object of another, -/
theorem ofInstance_visitPod_of_ne {f : Option Pod → β × Option Pod} (h : j ≠ i) :
    (s.visitPod i f).2.ofInstance j = s.ofInstance j :=
  Prod.ext (Store.visit_snd_of_ne h) rfl

/-- and neither does one to its service. -/
theorem ofInstance_visitService_of_ne {f : Option Service → β × Option Service} (h : j ≠ i) :
    (s.visitService (serviceName i) f).2.ofInstance j = s.ofInstance j :=
  Prod.ext rfl (Store.visit_snd_of_ne (serviceName_injective.ne h))

/-- What comes of a visit to a pod depends on the objects of its instance alone, -/
theorem visitPod_congr {f : Option Pod → β × Option Pod} (h : s.ofInstance i = t.ofInstance i) :
    (s.visitPod i f).1 = (t.visitPod i f).1 ∧
      (s.visitPod i f).2.ofInstance i = (t.visitPod i f).2.ofInstance i := by
  obtain ⟨hpod, hservice⟩ := Prod.ext_iff.mp h
  obtain ⟨hanswer, hleft⟩ := Store.visit_congr (f := f) hpod
  exact ⟨hanswer, Prod.ext hleft hservice⟩

/-- and so does what comes of one to a service. -/
theorem visitService_congr {f : Option Service → β × Option Service}
    (h : s.ofInstance i = t.ofInstance i) :
    (s.visitService (serviceName i) f).1 = (t.visitService (serviceName i) f).1 ∧
      (s.visitService (serviceName i) f).2.ofInstance i =
        (t.visitService (serviceName i) f).2.ofInstance i := by
  obtain ⟨hpod, hservice⟩ := Prod.ext_iff.mp h
  obtain ⟨hanswer, hleft⟩ := Store.visit_congr (f := f) hservice
  exact ⟨hanswer, Prod.ext hpod hleft⟩

end Objects

/-- A question about one instance leaves the objects of the others alone. -/
theorem serve_of_ne {choice : Choice} {call : Call} (h : Concerns i call) (hj : j ≠ i) :
    (serve choice call s).2.ofInstance j = s.ofInstance j := by
  cases h with
  | makes h =>
    cases h with
    | createPod => exact Objects.ofInstance_visitPod_of_ne hj
    | createService => exact Objects.ofInstance_visitService_of_ne hj
  | deletePod => exact Objects.ofInstance_visitPod_of_ne hj
  | deleteService | getService => exact Objects.ofInstance_visitService_of_ne hj

/-- A question about one instance is answered out of its own objects alone. -/
theorem serve_congr {choice : Choice} {call : Call} (h : Concerns i call)
    (hst : s.ofInstance i = t.ofInstance i) :
    (serve choice call s).1 = (serve choice call t).1 ∧
      (serve choice call s).2.ofInstance i = (serve choice call t).2.ofInstance i := by
  cases h with
  | makes h =>
    cases h with
    | createPod => exact Objects.visitPod_congr hst
    | createService => exact Objects.visitService_congr hst
  | deletePod => exact Objects.visitPod_congr hst
  | deleteService | getService => exact Objects.visitService_congr hst

end ChainBroker.Kubernetes
