import ChainBroker.Proofs.Contest
import ChainBroker.Proofs.DockerDaemon
import ChainBroker.Proofs.KubernetesCluster

/-!
# An instance is made once

Any number of provisions of one instance take turns at a platform. The broker has no locks: what
keeps them apart is that a daemon, or a cluster, does not create two objects under one name, and
that a provision asks for this name before anything else that counts.

For each of the platforms:

1. `role` says which exchange asks for the name and which one finishes the instance;
   `orderly_provision` that a provision is an attempt in this sense.
2. `contest` and `making` say that the platform gives a name once, and lets the one who has got it
   finish.
3. `Exclusive` is what follows of every schedule, and `exists_winner_race` what follows of one
   without mishaps.

`provision_once` puts it together.
-/

namespace ChainBroker

open Dialogue

/-! ## Docker -/

namespace Docker

variable {i : String} {s : Store Container}

instance (call : interface.Question) : Nonempty (interface.Answer call) := by
  cases call with
  | pull => exact ⟨[]⟩
  | pulled => exact ⟨()⟩
  | create | start | stop | remove => exact ⟨.ok ()⟩
  | inspect => exact ⟨.error notModified⟩

/-- What an exchange means for the making of a container: it is created under its name and then
started. -/
def role : Exchange interface → Role
  | ⟨.create _ _, created⟩ => .ofName created
  | ⟨.start _, started⟩ => .ofResult started
  | _ => .other

/-- While a pull is followed, nothing is made and nothing started. -/
theorem Followed.others {items : List PullItem} {log : List (Exchange interface)}
    {r : Except Failure Unit} (h : Followed items log r) : ∀ x ∈ log, role x = .other := by
  intro x hx
  obtain ⟨item, rfl⟩ := h.pulled x hx
  rfl

/-- A provision creates its container before it starts it, and starts none that was refused. -/
theorem orderly_provision (w : Workload) : Orderly role (provision w).run := by
  intro log r ht
  cases transcript_provision ht with
  | unpulled followed => exact .other rfl (.of_others followed.others _)
  | badPort followed => exact .other rfl (.of_others followed.others _)
  | uncreated followed => exact .other rfl (.append followed.others (.rejected rfl _))
  | created followed _ started =>
    refine .other rfl (.append followed.others (.accepted rfl ?_))
    cases started <;> rfl

/-- A call that failed was not accepted. -/
theorem role_failed (choice : Choice) (cause : Fault) (call : Call) :
    role ⟨call, failed choice cause call⟩ ≠ .accepted := by
  cases call <;> exact nofun

/-- A name that is taken is refused. -/
theorem reply_create_of_some (choice : Choice) (config : ContainerConfig) {b : Container}
    (found : s i = some b) :
    reliable.reply choice (.create i config) s = ⟨.create i config, .error (nameTaken i)⟩ ∧
      (reliable.react choice (.create i config) s).2 = s :=
  World.reply_eq (serve_create_of_some choice found)

/-- A name that is free is given to the container. -/
theorem reply_create_of_none (choice : Choice) (config : ContainerConfig) (free : s i = none) :
    reliable.reply choice (.create i config) s = ⟨.create i config, .ok ()⟩ ∧
      (reliable.react choice (.create i config) s).2 =
        Function.update s i (some ⟨config, .created, []⟩) :=
  World.reply_eq (serve_create_of_none choice free)

/-- After a creation the name is taken, whether it succeeded or not. -/
theorem create_taken (choice : Choice) (config : ContainerConfig) :
    (serve choice (.create i config) s).2 i ≠ none := by
  show (Store.visit i (create i config) s).2 i ≠ none
  rw [Store.visit_snd_self]
  cases s i <;> exact Option.some_ne_none _

/-- No start frees a name. -/
theorem start_taken (choice : Choice) (taken : s i ≠ none) :
    (serve choice (.start i) s).2 i ≠ none := by
  obtain ⟨b, found⟩ := Option.ne_none_iff_exists'.mp taken
  show (Store.visit i (start i choice.places) s).2 i ≠ none
  rw [Store.visit_snd_self, found, start]
  split <;> exact Option.some_ne_none _

/-- The creations of one name are a contest. -/
theorem contest (i : String) :
    Contest reliable (Makes i) role fun s : Store Container => s i ≠ none where
  free := by
    intro choice call s hcall accepted taken
    cases hcall with
    | pull | pulled => cases accepted
    | create config =>
      obtain ⟨b, found⟩ := Option.ne_none_iff_exists'.mp taken
      obtain ⟨hreply, -⟩ := reply_create_of_some choice config found
      rw [hreply] at accepted
      cases accepted
    | start => exact absurd accepted (Role.ofResult_ne id)
  taken := by
    intro choice call s hcall accepted
    cases hcall with
    | pull | pulled => cases accepted
    | create config => exact create_taken choice config
    | start => exact absurd accepted (Role.ofResult_ne id)
  keeps := by
    intro choice call s hcall taken
    cases hcall with
    | pull | pulled => exact taken
    | create config => exact create_taken choice config
    | start => exact start_taken choice taken

/-- The container has been created. -/
def Made (i : String) (s : Store Container) (x : Exchange interface) (s' : Store Container) :
    Prop :=
  ∃ config, x = ⟨.create i config, .ok ()⟩ ∧
    s' = Function.update s i (some ⟨config, .created, []⟩)

/-- The container has been started. -/
def Complete (i : String) (s : Store Container) (x _y : Exchange interface)
    (s' : Store Container) : Prop :=
  ∃ config places, x = ⟨.create i config, .ok ()⟩ ∧
    s' = Function.update s i (some ⟨config, .running, places⟩)

/-- Where nothing fails, the container that wins a free name is made and started. -/
theorem making (free : s i = none) :
    Making reliable (Makes i) role (fun s : Store Container => s i ≠ none) s (Made i s)
      (Complete i s) where
  toContest := contest i
  untaken := not_not_intro free
  other := by
    intro choice call s hcall other
    cases hcall with
    | pull | pulled => rfl
    | create config => exact absurd other Role.ofName_ne_other
    | start => exact absurd other (Role.ofResult_ne id)
  rejected := by
    intro choice call s hcall rejected
    cases hcall with
    | pull | pulled => cases rejected
    | create config =>
      cases found : s i with
      | none =>
        obtain ⟨hreply, -⟩ := reply_create_of_none choice config found
        rw [hreply] at rejected
        cases rejected
      | some b => exact ⟨Option.some_ne_none b, (reply_create_of_some choice config found).2⟩
    | start => exact absurd rejected (Role.ofResult_ne id)
  made := by
    intro choice call hcall accepted
    cases hcall with
    | pull | pulled => cases accepted
    | create config =>
      obtain ⟨hreply, hstate⟩ := reply_create_of_none choice config free
      exact ⟨config, hreply, hstate⟩
    | start => exact absurd accepted (Role.ofResult_ne id)
  finish := by
    rintro choice call s' x hcall ⟨config, rfl, rfl⟩ finishes
    cases hcall with
    | pull | pulled => cases finishes
    | create config => exact absurd finishes Role.not_finishes_ofName
    | start =>
      -- the container is as it was created, since nobody else has touched it
      have made := Function.update_self i (some (⟨config, .created, []⟩ : Container)) s
      obtain ⟨hreply, hstate⟩ := World.reply_eq (w := reliable) (serve_start_of_created choice made)
      rw [Function.update_idem] at hstate
      exact ⟨hreply ▸ rfl, config, choice.places, rfl, hstate⟩

variable {n : ℕ} {images : Fin n → String} {specs : Fin n → List String}
  {schedule : List (Fin n × daemon.Chance)}

/-- Provisions of one instance, each with an image and ports of its own, before their first turns.
-/
def race (i : String) (images : Fin n → String) (specs : Fin n → List String)
    (s : Store Container) : Scene daemon fun _ : Fin n => Except Failure Unit :=
  .start s fun k => (provision ⟨i, images k, specs k⟩).run

/-- However the provisions take turns, at most one of them is accepted. -/
theorem settled_race (i : String) (images : Fin n → String) (specs : Fin n → List String)
    (s : Store Container) (schedule : List (Fin n × daemon.Chance)) :
    Contest.Settled (w := daemon) (Makes i) role (fun s : Store Container => s i ≠ none)
      (fun k => (provision ⟨i, images k, specs k⟩).run) ((race i images specs s).run schedule) :=
  ((contest i).faulty role_failed).settled_run
    (fun k => only_provision ⟨i, images k, specs k⟩) s schedule

/-- What keeps provisions apart. -/
structure Exclusive (c : Scene daemon fun _ : Fin n => Except Failure Unit) : Prop where
  /-- At most one of them succeeds. -/
  unique : ∀ k l, c.calls k = .done (.ok ()) → c.calls l = .done (.ok ()) → k = l
  /-- One that cannot create its container has failed and says nothing further. -/
  rejected : ∀ k name config cause, ⟨.create name config, .error cause⟩ ∈ c.said k →
    (∃ e, c.calls k = .done (.error e)) ∧
      ∃ before, c.said k = before ++ [⟨.create name config, .error cause⟩]
  /-- One that starts a container has created it itself just before. -/
  earned : ∀ k name started, ⟨.start name, started⟩ ∈ c.said k →
    ∃ before config,
      c.said k = before ++ [⟨.create name config, .ok ()⟩, ⟨.start name, started⟩]

/-- What is accepted is a creation. -/
theorem eq_of_accepted {x : Exchange interface} (accepted : role x = .accepted) :
    ∃ name config, x = ⟨.create name config, .ok ()⟩ := by
  obtain ⟨call, answer⟩ := x
  cases call with
  | pull | pulled | stop | remove | inspect => cases accepted
  | start => exact absurd accepted (Role.ofResult_ne id)
  | create name config =>
    cases (answer : Except Fault Unit) with
    | ok => exact ⟨name, config, rfl⟩
    | error => cases accepted

/-- However the provisions take turns, the others create and start nothing. -/
theorem exclusive_race (i : String) (images : Fin n → String) (specs : Fin n → List String)
    (s : Store Container) (schedule : List (Fin n × daemon.Chance)) :
    Exclusive ((race i images specs s).run schedule) := by
  have settled := settled_race i images specs s schedule
  refine ⟨fun k l hk hl => settled.unique_of_done (fun _ => orderly_provision _) hk hl,
    fun k name config cause hmem =>
      (orderly_provision _).done_of_rejected (settled.said k) hmem rfl,
    fun k name started hmem => ?_⟩
  have hmakes := (settled.said k).only (only_provision ⟨i, images k, specs k⟩)
  obtain ⟨-, before, y, hlog, hy⟩ := (orderly_provision _).done_of_finishes (settled.said k) hmem
    (Role.finishes_ofResult _)
  obtain ⟨name', config, rfl⟩ := eq_of_accepted hy
  -- both are about the container of this instance
  have hcreate := hmakes ⟨.create name' config, .ok ()⟩ (by rw [hlog]; simp)
  have hstart := hmakes _ hmem
  cases hcreate
  cases hstart
  exact ⟨before, config, hlog⟩

/-- A report in which there is only progress does not end a pull. -/
theorem Followed.of_progress {progress : List (Option String)} {log : List (Exchange interface)}
    {r : Except Failure Unit} (h : Followed (progress.map .ok) log r) : r = .ok () := by
  induction progress generalizing log with
  | nil =>
    cases h
    rfl
  | cons status progress ih =>
    cases h with
    | progress rest => exact ih rest

/-- A daemon to which nothing happens is asked to create the container. -/
theorem asks_create {w : Workload} {ports : List Port} (parsed : w.parsedPorts = .ok ports)
    {log : List (Exchange interface)} {r : Except Failure Unit}
    (ht : Transcript (provision w).run log r)
    (answered : ∀ x ∈ log, ∃ choice s, x.2 = (reliable.react choice x.1 s).1) :
    ∃ x ∈ log, role x ≠ .other := by
  cases transcript_provision ht with
  | @unpulled report said e followed =>
    -- the report of such a daemon holds no error
    obtain ⟨choice, s, hreport⟩ := answered _ List.mem_cons_self
    have hprogress : report = choice.progress.map .ok := hreport
    rw [hprogress] at followed
    cases followed.of_progress
  | badPort _ parsed' => cases parsed.symm.trans parsed'
  | uncreated => exact ⟨_, List.mem_append_right _ List.mem_cons_self, Role.noConfusion⟩
  | created => exact ⟨_, List.mem_append_right _ List.mem_cons_self, Role.noConfusion⟩

/-- Without mishaps exactly one of the provisions succeeds, and the container is its own. -/
theorem exists_winner_race (positive : 0 < n) (free : s i = none)
    (valid : ∀ k, ∃ ports, Port.parseAll (specs k) = .ok ports)
    (lucky : ∀ t ∈ schedule, t.2.2 = none) (ended : ((race i images specs s).run schedule).Ended) :
    ∃ k, (∀ l, ((race i images specs s).run schedule).calls l = .done (.ok ()) ↔ l = k) ∧
      ∃ ports places, Port.parseAll (specs k) = .ok ports ∧
        ((race i images specs s).run schedule).state =
          Function.update s i (some ⟨.ofPorts (images k) ports, .running, places⟩) := by
  have : Nonempty (Fin n) := ⟨⟨0, positive⟩⟩
  have persistent : ∀ k log r, Transcript (provision ⟨i, images k, specs k⟩).run log r →
      (∀ x ∈ log, ∃ choice s, x.2 = (reliable.react choice x.1 s).1) →
        ∃ x ∈ log, role x ≠ .other := by
    intro k log r ht answered
    obtain ⟨ports, hports⟩ := valid k
    exact asks_create (Workload.parsedPorts_eq_ok_iff.mpr hports) ht answered
  obtain ⟨k, x, y, a, hk, hx, -, -, config, places, rfl, hstate⟩ :=
    (making free).exists_winner (c := (race i images specs s).run schedule) role_failed
      (fun k => only_provision ⟨i, images k, specs k⟩) (fun k => orderly_provision _)
      persistent lucky rfl ended
  have settled := settled_race i images specs s schedule
  have course := transcript_provision (hk ▸ settled.said k : Said _ _ (.done _)).transcript_of_done
  obtain ⟨-, ports, parsed, rfl⟩ := course.of_create hx
  refine ⟨k, fun l => ⟨fun hl => ?_, fun hl => hl ▸ hk⟩, ports, places,
    Workload.parsedPorts_eq_ok_iff.mp parsed, hstate⟩
  exact settled.unique_of_done (fun _ => orderly_provision _) hl hk

end Docker

/-! ## Kubernetes -/

namespace Kubernetes

variable {i : String} {s : Objects}

instance (call : interface.Question) : Nonempty (interface.Answer call) := by
  cases call with
  | createPod | createService | deletePod | deleteService => exact ⟨.ok ()⟩
  | getService => exact ⟨.error (absent "services" "")⟩

/-- What an exchange means for the making of an instance: its pod is created under its name, and
then its service. -/
def role : Exchange interface → Role
  | ⟨.createPod _, created⟩ => .ofName created
  | ⟨.createService _, created⟩ => .ofResult created
  | _ => .other

/-- A provision creates its pod before its service, and no service for a pod that was refused. -/
theorem orderly_provision (w : Workload) : Orderly role (provision w).run := by
  intro log r ht
  cases transcript_provision ht with
  | badPort => exact .early _
  | podless => exact .rejected rfl _
  | pod _ created =>
    refine .accepted rfl ?_
    cases created <;> rfl

/-- A call that failed was not accepted. -/
theorem role_failed (choice : Choice) (cause : Fault) (call : Call) :
    role ⟨call, failed choice cause call⟩ ≠ .accepted := by
  cases call <;> exact nofun

/-- A name that is taken is refused. -/
theorem reply_createPod_of_some (choice : Choice) (pod : Pod) {other : Pod}
    (found : s.pods pod.name = some other) :
    reliable.reply choice (.createPod pod) s =
        ⟨.createPod pod, .error (nameTaken "pods" pod.name)⟩ ∧
      (reliable.react choice (.createPod pod) s).2 = s :=
  World.reply_eq (serve_createPod_of_some choice found)

/-- A name that is free is given to the pod, -/
theorem reply_createPod_of_none (choice : Choice) (pod : Pod) (free : s.pods pod.name = none) :
    reliable.reply choice (.createPod pod) s = ⟨.createPod pod, .ok ()⟩ ∧
      (reliable.react choice (.createPod pod) s).2 =
        { s with pods := Function.update s.pods pod.name (some pod) } :=
  World.reply_eq (serve_createPod_of_none choice free)

/-- and to the service. -/
theorem reply_createService_of_none (choice : Choice) (service : Service)
    (free : s.services service.name = none) :
    reliable.reply choice (.createService service) s = ⟨.createService service, .ok ()⟩ ∧
      (reliable.react choice (.createService service) s).2 =
        { s with
          services := Function.update s.services service.name
            (some (service.published choice.nodePorts)) } :=
  World.reply_eq (serve_createService_of_none choice free)

/-- After a creation the pod's name is taken, whether it succeeded or not. -/
theorem createPod_taken (choice : Choice) (pod : Pod) :
    (serve choice (.createPod pod) s).2.pods pod.name ≠ none := by
  show (Store.visit pod.name (create "pods" pod.name pod) s.pods).2 pod.name ≠ none
  rw [Store.visit_snd_self]
  cases s.pods pod.name <;> exact Option.some_ne_none _

/-- The creations of one pod are a contest. -/
theorem contest (i : String) :
    Contest reliable (Makes i) role fun s : Objects => s.pods i ≠ none where
  free := by
    intro choice call s hcall accepted taken
    cases hcall with
    | createPod image ports =>
      obtain ⟨other, found⟩ := Option.ne_none_iff_exists'.mp taken
      obtain ⟨hreply, -⟩ := reply_createPod_of_some choice (.ofPorts i image ports) found
      rw [hreply] at accepted
      cases accepted
    | createService => exact absurd accepted (Role.ofResult_ne id)
  taken := by
    intro choice call s hcall accepted
    cases hcall with
    | createPod image ports => exact createPod_taken choice (.ofPorts i image ports)
    | createService => exact absurd accepted (Role.ofResult_ne id)
  keeps := by
    intro choice call s hcall taken
    cases hcall with
    | createPod image ports => exact createPod_taken choice (.ofPorts i image ports)
    | createService => exact taken

/-- The pod has been created. -/
def Made (i : String) (s : Objects) (x : Exchange interface) (s' : Objects) : Prop :=
  ∃ pod, x = ⟨.createPod pod, .ok ()⟩ ∧
    s' = { s with pods := Function.update s.pods i (some pod) }

/-- The service has been created, too. -/
def Complete (i : String) (s : Objects) (x y : Exchange interface) (s' : Objects) : Prop :=
  ∃ pod service nodePorts, x = ⟨.createPod pod, .ok ()⟩ ∧ y = ⟨.createService service, .ok ()⟩ ∧
    s' =
      { pods := Function.update s.pods i (some pod)
        services := Function.update s.services (serviceName i)
          (some (service.published nodePorts)) }

/-- Where nothing fails, the pod that wins a free name gets its service. -/
theorem making (free : s.pods i = none) (serviceFree : s.services (serviceName i) = none) :
    Making reliable (Makes i) role (fun s : Objects => s.pods i ≠ none) s (Made i s)
      (Complete i s) where
  toContest := contest i
  untaken := not_not_intro free
  other := by
    intro choice call s hcall other
    cases hcall with
    | createPod => exact absurd other Role.ofName_ne_other
    | createService => exact absurd other (Role.ofResult_ne id)
  rejected := by
    intro choice call s hcall rejected
    cases hcall with
    | createPod image ports =>
      cases found : s.pods i with
      | none =>
        obtain ⟨hreply, -⟩ := reply_createPod_of_none choice (.ofPorts i image ports) found
        rw [hreply] at rejected
        cases rejected
      | some other =>
        exact ⟨Option.some_ne_none other,
          (reply_createPod_of_some choice (.ofPorts i image ports) found).2⟩
    | createService => exact absurd rejected (Role.ofResult_ne id)
  made := by
    intro choice call hcall accepted
    cases hcall with
    | createPod image ports =>
      obtain ⟨hreply, hstate⟩ := reply_createPod_of_none choice (.ofPorts i image ports) free
      exact ⟨.ofPorts i image ports, hreply, hstate⟩
    | createService => exact absurd accepted (Role.ofResult_ne id)
  finish := by
    rintro choice call s' x hcall ⟨pod, rfl, rfl⟩ finishes
    cases hcall with
    | createPod => exact absurd finishes Role.not_finishes_ofName
    | createService ports =>
      obtain ⟨hreply, hstate⟩ := reply_createService_of_none
        (s := { s with pods := Function.update s.pods i (some pod) }) choice (.ofPorts i ports)
        serviceFree
      exact ⟨hreply ▸ rfl, pod, .ofPorts i ports, choice.nodePorts, rfl, hreply, hstate⟩

variable {n : ℕ} {images : Fin n → String} {specs : Fin n → List String}
  {schedule : List (Fin n × cluster.Chance)}

/-- Provisions of one instance, each with an image and ports of its own, before their first turns.
-/
def race (i : String) (images : Fin n → String) (specs : Fin n → List String) (s : Objects) :
    Scene cluster fun _ : Fin n => Except Failure Unit :=
  .start s fun k => (provision ⟨i, images k, specs k⟩).run

/-- However the provisions take turns, at most one of them is accepted. -/
theorem settled_race (i : String) (images : Fin n → String) (specs : Fin n → List String)
    (s : Objects) (schedule : List (Fin n × cluster.Chance)) :
    Contest.Settled (w := cluster) (Makes i) role (fun s : Objects => s.pods i ≠ none)
      (fun k => (provision ⟨i, images k, specs k⟩).run) ((race i images specs s).run schedule) :=
  ((contest i).faulty role_failed).settled_run
    (fun k => only_provision ⟨i, images k, specs k⟩) s schedule

/-- What keeps provisions apart. -/
structure Exclusive (c : Scene cluster fun _ : Fin n => Except Failure Unit) : Prop where
  /-- At most one of them succeeds. -/
  unique : ∀ k l, c.calls k = .done (.ok ()) → c.calls l = .done (.ok ()) → k = l
  /-- One that cannot create its pod has failed and says nothing further. -/
  rejected : ∀ k pod cause, ⟨.createPod pod, .error cause⟩ ∈ c.said k →
    (∃ e, c.calls k = .done (.error e)) ∧
      ∃ before, c.said k = before ++ [⟨.createPod pod, .error cause⟩]
  /-- One that creates a service has created the pod itself just before. -/
  earned : ∀ k service created, ⟨.createService service, created⟩ ∈ c.said k →
    ∃ before pod,
      c.said k = before ++ [⟨.createPod pod, .ok ()⟩, ⟨.createService service, created⟩]

/-- What is accepted is the creation of a pod. -/
theorem eq_of_accepted {x : Exchange interface} (accepted : role x = .accepted) :
    ∃ pod, x = ⟨.createPod pod, .ok ()⟩ := by
  obtain ⟨call, answer⟩ := x
  cases call with
  | deletePod | deleteService | getService => cases accepted
  | createService => exact absurd accepted (Role.ofResult_ne id)
  | createPod pod =>
    cases (answer : Except Fault Unit) with
    | ok => exact ⟨pod, rfl⟩
    | error => cases accepted

/-- However the provisions take turns, the others create no pod and no service. -/
theorem exclusive_race (i : String) (images : Fin n → String) (specs : Fin n → List String)
    (s : Objects) (schedule : List (Fin n × cluster.Chance)) :
    Exclusive ((race i images specs s).run schedule) := by
  have settled := settled_race i images specs s schedule
  refine ⟨fun k l hk hl => settled.unique_of_done (fun _ => orderly_provision _) hk hl,
    fun k pod cause hmem => (orderly_provision _).done_of_rejected (settled.said k) hmem rfl,
    fun k service created hmem => ?_⟩
  obtain ⟨-, before, y, hlog, hy⟩ := (orderly_provision _).done_of_finishes (settled.said k) hmem
    (Role.finishes_ofResult _)
  obtain ⟨pod, rfl⟩ := eq_of_accepted hy
  exact ⟨before, pod, hlog⟩

/-- If its ports are ports, a provision asks for the creation of the pod. -/
theorem asks_createPod {w : Workload} {ports : List Port} (parsed : w.parsedPorts = .ok ports)
    {log : List (Exchange interface)} {r : Except Failure Unit}
    (ht : Transcript (provision w).run log r) : ∃ x ∈ log, role x ≠ .other := by
  cases transcript_provision ht with
  | badPort parsed' => cases parsed.symm.trans parsed'
  | podless => exact ⟨_, List.mem_cons_self, Role.noConfusion⟩
  | pod => exact ⟨_, List.mem_cons_self, Role.noConfusion⟩

/-- Without mishaps exactly one of the provisions succeeds, and pod and service are its own. -/
theorem exists_winner_race (positive : 0 < n) (free : s.pods i = none)
    (serviceFree : s.services (serviceName i) = none)
    (valid : ∀ k, ∃ ports, Port.parseAll (specs k) = .ok ports)
    (lucky : ∀ t ∈ schedule, t.2.2 = none) (ended : ((race i images specs s).run schedule).Ended) :
    ∃ k, (∀ l, ((race i images specs s).run schedule).calls l = .done (.ok ()) ↔ l = k) ∧
      ∃ ports nodePorts, Port.parseAll (specs k) = .ok ports ∧
        ((race i images specs s).run schedule).state =
          { pods := Function.update s.pods i (some (.ofPorts i (images k) ports))
            services := Function.update s.services (serviceName i)
              (some ((Service.ofPorts i ports).published nodePorts)) } := by
  have : Nonempty (Fin n) := ⟨⟨0, positive⟩⟩
  have persistent : ∀ k log r, Transcript (provision ⟨i, images k, specs k⟩).run log r →
      (∀ x ∈ log, ∃ choice s, x.2 = (reliable.react choice x.1 s).1) →
        ∃ x ∈ log, role x ≠ .other := by
    intro k log r ht _
    obtain ⟨ports, hports⟩ := valid k
    exact asks_createPod (Workload.parsedPorts_eq_ok_iff.mpr hports) ht
  obtain ⟨k, x, y, a, hk, hx, hy, -, pod, service, nodePorts, rfl, rfl, hstate⟩ :=
    (making free serviceFree).exists_winner (c := (race i images specs s).run schedule) role_failed
      (fun k => only_provision ⟨i, images k, specs k⟩) (fun k => orderly_provision _)
      persistent lucky rfl ended
  have settled := settled_race i images specs s schedule
  have course := transcript_provision (hk ▸ settled.said k : Said _ _ (.done _)).transcript_of_done
  obtain ⟨ports, parsed, rfl⟩ := course.of_createPod hx
  obtain ⟨ports', parsed', rfl⟩ := course.of_createService hy
  -- pod and service are made of the same ports
  cases parsed.symm.trans parsed'
  refine ⟨k, fun l => ⟨fun hl => ?_, fun hl => hl ▸ hk⟩, ports, nodePorts,
    Workload.parsedPorts_eq_ok_iff.mp parsed, hstate⟩
  exact settled.unique_of_done (fun _ => orderly_provision _) hl hk

end Kubernetes

/-! ## Both platforms -/

/-- However the calls of concurrent provisions of one instance are interleaved, and whatever goes
wrong with them, at most one provision succeeds, one whose creation is rejected says nothing
further, and nobody finishes but the one who has created. If the names are free, the ports are ports
and nothing goes wrong, exactly one provision succeeds in the end, and what is there then has been
made by it. -/
theorem provision_once {n : ℕ} (i : String) (images : Fin n → String)
    (specs : Fin n → List String) :
    (∀ s schedule, Docker.Exclusive ((Docker.race i images specs s).run schedule)) ∧
    (∀ s schedule, Kubernetes.Exclusive ((Kubernetes.race i images specs s).run schedule)) ∧
    (0 < n → (∀ k, ∃ ports, Port.parseAll (specs k) = .ok ports) →
      (∀ (s : Store Docker.Container) (schedule : List (Fin n × Docker.daemon.Chance)),
        s i = none → (∀ t ∈ schedule, t.2.2 = none) →
          let c := (Docker.race i images specs s).run schedule
          (∃ rest, (∀ t ∈ rest, t.2.2 = none) ∧ (c.run rest).Ended) ∧
          (c.Ended →
            ∃ k, (∀ l, c.calls l = .done (.ok ()) ↔ l = k) ∧
              ∃ ports places, Port.parseAll (specs k) = .ok ports ∧
                c.state =
                  Function.update s i (some ⟨.ofPorts (images k) ports, .running, places⟩))) ∧
      (∀ (s : Kubernetes.Objects) (schedule : List (Fin n × Kubernetes.cluster.Chance)),
        s.pods i = none → s.services (Kubernetes.serviceName i) = none →
          (∀ t ∈ schedule, t.2.2 = none) →
            let c := (Kubernetes.race i images specs s).run schedule
            (∃ rest, (∀ t ∈ rest, t.2.2 = none) ∧ (c.run rest).Ended) ∧
            (c.Ended →
              ∃ k, (∀ l, c.calls l = .done (.ok ()) ↔ l = k) ∧
                ∃ ports nodePorts, Port.parseAll (specs k) = .ok ports ∧
                  c.state =
                    { pods := Function.update s.pods i (some (.ofPorts i (images k) ports))
                      services := Function.update s.services (Kubernetes.serviceName i)
                        (some ((Kubernetes.Service.ofPorts i ports).published nodePorts)) }))) := by
  -- some turns are left that end the race, and a race that has ended has a winner
  refine ⟨Docker.exclusive_race i images specs, Kubernetes.exclusive_race i images specs,
    fun positive valid => ⟨fun s schedule free lucky => ⟨?_, fun ended => ?_⟩,
      fun s schedule free serviceFree lucky => ⟨?_, fun ended => ?_⟩⟩⟩
  · obtain ⟨rest, hrest, ended⟩ :=
      Scene.exists_ended ((Docker.race i images specs s).run schedule) (default, none)
    exact ⟨rest, fun t ht => by rw [hrest t ht], ended⟩
  · exact Docker.exists_winner_race positive free valid lucky ended
  · obtain ⟨rest, hrest, ended⟩ :=
      Scene.exists_ended ((Kubernetes.race i images specs s).run schedule) (default, none)
    exact ⟨rest, fun t ht => by rw [hrest t ht], ended⟩
  · exact Kubernetes.exists_winner_race positive free serviceFree valid lucky ended

/-- Turns of two provisions: both pull the image, and the second one is the first to ask for the
name. -/
def overtaking : List (Fin 2 × Docker.daemon.Chance) :=
  [0, 1, 1, 0, 1].map fun k => (k, default, none)

/-- Of two provisions the one that has overtaken the other one succeeds. -/
theorem overtaking_wins :
    let c := (Docker.race "inst-1" (fun _ : Fin 2 => "nimak/geth") (fun _ => []) .empty).run
      overtaking
    c.Ended ∧ ∀ l, c.calls l = .done (.ok ()) ↔ l = 1 := by
  intro c
  have ended : c.Ended := by
    intro k
    match k with
    | 0 => exact ⟨_, rfl⟩
    | 1 => exact ⟨_, rfl⟩
  have lucky : ∀ t ∈ overtaking, t.2.2 = none := by
    intro t ht
    obtain ⟨k, -, rfl⟩ := List.mem_map.mp ht
    rfl
  obtain ⟨-, -, hwon⟩ := provision_once "inst-1" (fun _ : Fin 2 => "nimak/geth") (fun _ => [])
  obtain ⟨hdocker, -⟩ := hwon (by decide) fun _ => ⟨[], rfl⟩
  obtain ⟨-, hwinner⟩ := hdocker .empty overtaking rfl lucky
  obtain ⟨k, hk, -⟩ := hwinner ended
  have hone : c.calls 1 = .done (.ok ()) := rfl
  rw [(hk 1).mp hone]
  exact ⟨ended, hk⟩

end ChainBroker
