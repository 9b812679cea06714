import ChainBroker.Proofs.Docker
import ChainBroker.Proofs.World

/-!
# A Docker daemon with its containers

A daemon keeps containers under their names. A container is created, then started, and it has to be
stopped before it can be removed. The daemon refuses to create a container under a name that is
taken, and it answers 304 if there is nothing to stop.

That such an answer reaches a platform as a failure (`Docker.notModified`) is an assumption about
the client between the two. A client that takes every status of `Docker.isGood` for a success does
not fulfil it, as this includes 304.

* `Docker.reliable` is a daemon to which nothing happens, `Docker.daemon` one whose calls may meet
  with mishaps.
* `Docker.hold_provision` and `Docker.hold_deprovision` say what these operations come to at a
  reliable daemon.
* `Docker.Concerns` are the questions about the container of one name. All operations on an instance
  ask nothing else (`Docker.only_concerns`), and what they ask sees and changes this container only
  (`Docker.serve_congr`, `Docker.serve_of_ne`).
-/

namespace ChainBroker.Docker

open Dialogue Attempt

/-! ## Containers -/

/-- How far a container has come. -/
inductive Status where
  /-- It has not been started. -/
  | created
  /-- It runs. -/
  | running
  /-- It has been stopped, or has ended by itself. -/
  | exited
deriving DecidableEq

/-- A container. -/
structure Container where
  /-- How it was created. -/
  config : ContainerConfig
  /-- How far it has come. -/
  status : Status
  /-- Where its ports are published. -/
  places : PortTable
deriving DecidableEq

/-- The answer where a name is taken. -/
def nameTaken (name : String) : Fault :=
  .refused 409 ("Conflict. The container name \"/" ++ name ++ "\" is already in use")

/-- The answer where there is no container. -/
def absent (name : String) : Fault := .refused 404 ("No such container: " ++ name)

/-- The answer where a container is as it should become, given as a failure: this is the assumption
about the client. -/
def notModified : Fault := .refused 304 ""

/-- The answer where a container would have to be stopped first. -/
def stillRunning (name : String) : Fault :=
  .refused 409 ("cannot remove container \"/" ++ name ++ "\": container is running")

/-! What happens to the container of a name, if there is one. -/

/-- A new container takes a free name. -/
def create (name : String) (config : ContainerConfig) :
    Option Container → Except Fault Unit × Option Container
  | none => (.ok (), some ⟨config, .created, []⟩)
  | some b => (.error (nameTaken name), some b)

/-- A container that does not run begins to run, with its ports published at the places. -/
def start (name : String) (places : PortTable) :
    Option Container → Except Fault Unit × Option Container
  | none => (.error (absent name), none)
  | some b =>
    if b.status = .running then (.error notModified, some b)
    else (.ok (), some { b with status := .running, places })

/-- A container that has ended, and where it can no longer be reached. -/
def Container.ended (b : Container) : Container := { b with status := .exited, places := [] }

/-- A container that runs is stopped. -/
def stop (name : String) : Option Container → Except Fault Unit × Option Container
  | none => (.error (absent name), none)
  | some b =>
    if b.status = .running then (.ok (), some b.ended) else (.error notModified, some b)

/-- A container that does not run is removed. -/
def remove (name : String) : Option Container → Except Fault Unit × Option Container
  | none => (.error (absent name), none)
  | some b =>
    if b.status = .running then (.error (stillRunning name), some b) else (.ok (), none)

/-- A container is looked at. -/
def inspect (name : String) : Option Container → Except Fault Inspection × Option Container
  | none => (.error (absent name), none)
  | some b => (.ok ⟨some b.places⟩, some b)

/-! ## Daemons -/

/-- What a daemon is free to do. -/
structure Choice where
  /-- The progress that is reported on a pull. -/
  progress : List (Option String)
  /-- Where the ports of a container are published. -/
  places : PortTable
deriving Inhabited

/-- What a daemon answers, and its containers after that. -/
def serve (choice : Choice) :
    (call : Call) → Store Container → call.Answer × Store Container
  | .pull _, s => (choice.progress.map .ok, s)
  | .pulled _, s => ((), s)
  | .create name config, s => Store.visit name (create name config) s
  | .start name, s => Store.visit name (start name choice.places) s
  | .stop name, s => Store.visit name (stop name) s
  | .remove name, s => Store.visit name (remove name) s
  | .inspect name, s => Store.visit name (inspect name) s

/-- A daemon to which nothing happens. -/
abbrev reliable : World interface where
  State := Store Container
  Chance := Choice
  react := serve

/-- How a failure is told: the report on a pull ends with it, and every other call but the taking of
an item from a report is answered with it. -/
def failed (choice : Choice) (cause : Fault) : (call : Call) → call.Answer
  | .pull _ => choice.progress.map .ok ++ [.error cause]
  | .pulled _ => ()
  | .create _ _ | .start _ | .stop _ | .remove _ | .inspect _ => .error cause

/-- A daemon all of whose calls may meet with mishaps. -/
abbrev daemon : World interface := reliable.faulty failed

/-! ## Operations at a reliable daemon -/

variable {s t : Store Container} {luck : Nat → Choice} {i j : String}

/-- What a provision comes to. -/
inductive Provided (w : Workload) (s : Store Container) :
    Except Failure Unit × Store Container → Prop where
  /-- A text of the ports is no port. -/
  | badPort {e : Failure} (parsed : w.parsedPorts = .error e) : Provided w s (.error e, s)
  /-- The name is taken. -/
  | taken {ports : List Port} (parsed : w.parsedPorts = .ok ports) {b : Container}
      (found : s w.name = some b) : Provided w s (.error (.docker (nameTaken w.name)), s)
  /-- The container runs. -/
  | running {ports : List Port} (parsed : w.parsedPorts = .ok ports) (free : s w.name = none)
      (places : PortTable) :
    Provided w s
      (.ok (), Function.update s w.name (some ⟨.ofPorts w.image ports, .running, places⟩))

/-- A report in which there is only progress is followed to its end, and nothing comes of it. -/
theorem hold_follow (progress : List (Option String)) :
    reliable.hold (follow (progress.map .ok)).run luck s = (.ok (), s) := by
  induction progress generalizing luck with
  | nil => rfl
  | cons status progress ih => exact ih

theorem hold_pull (reference : String) :
    reliable.hold (pull reference).run luck s = (.ok (), s) :=
  hold_follow (luck 0).progress

/-- What a provision does after the pull. -/
def establish (w : Workload) : Attempt interface Failure Unit := do
  let ports ← Attempt.ofExcept id w.parsedPorts
  Attempt.ofExcept .docker (← ask (.create w.name (.ofPorts w.image ports)))
  Attempt.ofExcept .docker (← ask (.start w.name))

theorem serve_create_of_some (choice : Choice) {config : ContainerConfig} {b : Container}
    (h : s i = some b) : serve choice (.create i config) s = (.error (nameTaken i), s) :=
  Store.visit_eq_self (by rw [h, create])

theorem serve_create_of_none (choice : Choice) {config : ContainerConfig} (h : s i = none) :
    serve choice (.create i config) s =
      (.ok (), Function.update s i (some ⟨config, .created, []⟩)) :=
  Store.visit_eq (by rw [h, create])

theorem serve_start_of_created (choice : Choice) {config : ContainerConfig} {places : PortTable}
    (h : s i = some ⟨config, .created, places⟩) :
    serve choice (.start i) s =
      (.ok (), Function.update s i (some ⟨config, .running, choice.places⟩)) :=
  Store.visit_eq (by rw [h, start, if_neg Status.noConfusion])

theorem hold_establish (w : Workload) (luck : Nat → Choice) (s : Store Container) :
    Provided w s (reliable.hold (establish w).run luck s) := by
  unfold establish ask
  cases parsed : w.parsedPorts with
  | error e => exact .badPort parsed
  | ok ports =>
    rw [ofExcept_ok_bind]
    cases found : s w.name with
    | some b =>
      rw [World.hold_question_bind (serve_create_of_some (luck 0) found)]
      exact .taken parsed found
    | none =>
      have made := Function.update_self w.name
        (some (⟨.ofPorts w.image ports, .created, []⟩ : Container)) s
      rw [World.hold_question_bind (serve_create_of_none (luck 0) found), ofExcept_ok_bind,
        World.hold_question_bind (serve_start_of_created (luck 1) made), Function.update_idem]
      exact .running parsed found _

theorem hold_provision (w : Workload) (luck : Nat → Choice) (s : Store Container) :
    Provided w s (reliable.hold (provision w).run luck s) := by
  obtain ⟨rest, hrest⟩ :
      ∃ rest, reliable.hold (provision w).run luck s = reliable.hold (establish w).run rest s :=
    World.hold_attempt_bind (hold_pull w.image)
  rw [hrest]
  exact hold_establish w rest s

/-- A container that runs is stopped and removed. -/
theorem hold_deprovision_of_running {b : Container} (found : s i = some b)
    (running : b.status = .running) :
    reliable.hold (deprovision i).run luck s = (.ok (), Function.update s i none) := by
  have hstop : serve (luck 0) (.stop i) s = (.ok (), Function.update s i (some b.ended)) :=
    Store.visit_eq (by rw [found, stop, if_pos running])
  have hremove : serve (luck 1) (.remove i) (Function.update s i (some b.ended)) =
      (.ok (), Function.update (Function.update s i (some b.ended)) i none) := by
    refine Store.visit_eq ?_
    rw [Function.update_self, remove, Container.ended, if_neg Status.noConfusion]
  unfold deprovision ask
  rw [World.hold_question_bind hstop, ofExcept_ok_bind, World.hold_question_bind hremove,
    Function.update_idem]
  rfl

/-- A container that does not run is left as it is. -/
theorem hold_deprovision_of_not_running {b : Container} (found : s i = some b)
    (idle : b.status ≠ .running) :
    reliable.hold (deprovision i).run luck s = (.error (.docker notModified), s) := by
  have hstop : serve (luck 0) (.stop i) s = (.error notModified, s) :=
    Store.visit_eq_self (by rw [found, stop, if_neg idle])
  unfold deprovision ask
  rw [World.hold_question_bind hstop]
  rfl

theorem hold_deprovision_of_none (free : s i = none) :
    reliable.hold (deprovision i).run luck s = (.error (.docker (absent i)), s) := by
  have hstop : serve (luck 0) (.stop i) s = (.error (absent i), s) :=
    Store.visit_eq_self (by rw [free, stop])
  unfold deprovision ask
  rw [World.hold_question_bind hstop]
  rfl

/-- A look at a container changes nothing. -/
theorem hold_bind_snd (internalAddress externalAddress : String) :
    (reliable.hold (bind internalAddress externalAddress i).run luck s).2 = s := by
  have hinspect : serve (luck 0) (.inspect i) s = ((inspect i (s i)).1, s) :=
    Store.visit_eq_self (by cases s i <;> rfl)
  unfold bind ask
  rw [World.hold_question_bind hinspect]
  cases (inspect i (s i)).1 <;> rfl

/-! ## Questions about one container -/

/-- The questions that are asked when the container of a name is made. -/
inductive Makes (name : String) : Call → Prop where
  | pull (reference : String) : Makes name (.pull reference)
  | pulled (item : PullItem) : Makes name (.pulled item)
  | create (config : ContainerConfig) : Makes name (.create name config)
  | start : Makes name (.start name)

/-- The questions that concern the container of a name and no other one. -/
inductive Concerns (name : String) : Call → Prop where
  | makes {call : Call} (h : Makes name call) : Concerns name call
  | stop : Concerns name (.stop name)
  | remove : Concerns name (.remove name)
  | inspect : Concerns name (.inspect name)

theorem only_follow (items : List PullItem) : (follow items).run.Only (Makes i) := by
  induction items with
  | nil => trivial
  | cons item items ih =>
    refine only_question_bind (.pulled item) fun _ => ?_
    cases item with
    | ok status => exact ih
    | error cause => trivial

theorem only_provision (w : Workload) : (provision w).run.Only (Makes w.name) := by
  refine only_bind (only_question_bind (.pull w.image) only_follow) fun _ => ?_
  refine only_bind only_ofExcept fun ports => ?_
  refine only_question_bind (.create _) fun created => ?_
  exact only_bind only_ofExcept fun _ => only_question_bind .start fun _ => only_ofExcept

theorem only_deprovision (instanceId : String) :
    (deprovision instanceId).run.Only (Concerns instanceId) := by
  refine only_question_bind .stop fun stopped => ?_
  exact only_bind only_ofExcept fun _ => only_question_bind .remove fun _ => only_ofExcept

theorem only_bind_platform (internalAddress externalAddress instanceId : String) :
    (bind internalAddress externalAddress instanceId).run.Only (Concerns instanceId) := by
  refine only_question_bind .inspect fun shown => ?_
  exact only_bind only_ofExcept fun _ => trivial

/-- Whatever is done for an instance, only its own container is asked about. -/
theorem only_concerns (internalAddress externalAddress instanceId : String) (task : Platform.Task) :
    (task.on (platform internalAddress externalAddress) instanceId).Only (Concerns instanceId) := by
  cases task with
  | provision image ports => exact (only_provision _).mono fun _ => .makes
  | deprovision => exact only_deprovision instanceId
  | bind bindingId => exact only_bind_platform internalAddress externalAddress instanceId

/-- A question about one container leaves the others alone. -/
theorem serve_of_ne {choice : Choice} {call : Call} (h : Concerns i call) (hj : j ≠ i) :
    (serve choice call s).2 j = s j := by
  cases h with
  | makes h =>
    cases h with
    | pull | pulled => rfl
    | create | start => exact Store.visit_snd_of_ne hj
  | stop | remove | inspect => exact Store.visit_snd_of_ne hj

/-- A question about one container is answered out of this container alone. -/
theorem serve_congr {choice : Choice} {call : Call} (h : Concerns i call) (hst : s i = t i) :
    (serve choice call s).1 = (serve choice call t).1 ∧
      (serve choice call s).2 i = (serve choice call t).2 i := by
  cases h with
  | makes h =>
    cases h with
    | pull | pulled => exact ⟨rfl, hst⟩
    | create | start => exact Store.visit_congr hst
  | stop | remove | inspect => exact Store.visit_congr hst

end ChainBroker.Docker
