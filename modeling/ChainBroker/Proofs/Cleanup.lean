import ChainBroker.Proofs.DockerDaemon

/-!
# What a deprovision removes

A container runs once it has been provisioned, but it need not run for ever: its start may fail, it
may end by itself, and a removal may come no further than the stop. A deprovision stops the
container and then removes it; a container that does not run cannot be stopped, and the daemon's
answer to that is taken for a failure.

1. `Docker.after` is what has become of the containers when requests have been held and containers
   have ended by themselves.
2. As long as nothing goes wrong and no container ends by itself, every container runs
   (`Docker.allRunning_after`).
3. A deprovision removes exactly the containers that run (`Docker.deprovision_removes_running`).
   Every other container stays for good, and its name stays taken.
-/

namespace ChainBroker.Docker

open Dialogue

variable {s : Store Container} {i : String}

/-! ## Histories in which containers end -/

/-- What can happen at a daemon. -/
inductive Event where
  /-- A request is held to its end, with the chances that it meets with. -/
  | request (r : Platform.Request) (luck : Nat → daemon.Chance)
  /-- The container of a name ends by itself. -/
  | exit (name : String)

/-- What is left of a container that ends by itself: only one that runs can do that. -/
def Container.exit (b : Container) : Container := if b.status = .running then b.ended else b

/-- The containers after an event. -/
def Event.effect (p : Platform interface) : Event → Store Container → Store Container
  | .request r luck, s => (daemon.hold (r.on p) luck s).2
  | .exit name, s => Function.update s name ((s name).map Container.exit)

/-- The containers after some events. -/
def after (p : Platform interface) (events : List Event) (s : Store Container) : Store Container :=
  events.foldl (fun s event => event.effect p s) s

/-- Nothing goes wrong with a request, and no container ends by itself. -/
inductive Event.Smooth : Event → Prop where
  /-- A request meets with no mishap. -/
  | request (r : Platform.Request) {luck : Nat → daemon.Chance} (lucky : World.Lucky luck) :
    Smooth (.request r luck)

/-! ## Containers run if nothing happens to them -/

/-- Every container runs. -/
def AllRunning (s : Store Container) : Prop := ∀ name b, s name = some b → b.status = .running

/-- A container that runs may be put in place, or a container taken away. -/
theorem AllRunning.update (h : AllRunning s) {o : Option Container}
    (ho : ∀ b, o = some b → b.status = .running) : AllRunning (Function.update s i o) := by
  intro name b found
  by_cases hname : name = i
  · subst hname
    rw [Function.update_self] at found
    exact ho b found
  · rw [Function.update_of_ne hname] at found
    exact h name b found

theorem AllRunning.provision {w : Workload} (h : AllRunning s)
    {result : Except Failure Unit × Store Container} (provided : Provided w s result) :
    AllRunning result.2 := by
  cases provided with
  | badPort | taken => exact h
  | running =>
    refine h.update fun b made => ?_
    cases made
    rfl

theorem AllRunning.deprovision (h : AllRunning s) (luck : Nat → Choice) :
    AllRunning (reliable.hold (deprovision i).run luck s).2 := by
  cases found : s i with
  | none =>
    rw [hold_deprovision_of_none found]
    exact h
  | some b =>
    rw [hold_deprovision_of_running found (h i b found)]
    exact h.update fun _ made => nomatch made

theorem AllRunning.request (internalAddress externalAddress : String) (r : Platform.Request)
    (luck : Nat → Choice) (h : AllRunning s) :
    AllRunning (reliable.hold (r.on (platform internalAddress externalAddress)) luck s).2 := by
  obtain ⟨instanceId, task⟩ := r
  cases task with
  | provision image ports => exact h.provision (hold_provision _ luck s)
  -- a container that runs is stopped and removed, so no stopped one is left behind
  | deprovision => exact h.deprovision luck
  | bind bindingId =>
    show AllRunning
      (reliable.hold (Docker.bind internalAddress externalAddress instanceId).run luck s).2
    rw [hold_bind_snd]
    exact h

theorem allRunning_after (internalAddress externalAddress : String) {events : List Event}
    (smooth : ∀ event ∈ events, event.Smooth) (h : AllRunning s) :
    AllRunning (after (platform internalAddress externalAddress) events s) := by
  induction events generalizing s with
  | nil => exact h
  | cons event events ih =>
    obtain ⟨first, others⟩ := List.forall_mem_cons.mp smooth
    refine ih others ?_
    cases first with
    | request r lucky =>
      show AllRunning
        (daemon.hold (r.on (platform internalAddress externalAddress)) _ s).2
      rw [World.hold_faulty lucky]
      exact h.request internalAddress externalAddress r _

/-! ## Names that are free, and names that are taken -/

variable {w : Workload} {ports : List Port} {luck : Nat → Choice}

/-- Where the name is free, a container is made. -/
theorem hold_provision_of_free (parsed : w.parsedPorts = .ok ports) (free : s w.name = none) :
    (reliable.hold (provision w).run luck s).1 = .ok () := by
  have provided := hold_provision w luck s
  generalize reliable.hold (provision w).run luck s = result at provided ⊢
  cases provided with
  | badPort parsed' => cases parsed.symm.trans parsed'
  | taken _ found => cases free.symm.trans found
  | running => rfl

/-- Where the name is taken, nothing changes. -/
theorem hold_provision_of_taken (parsed : w.parsedPorts = .ok ports) {b : Container}
    (found : s w.name = some b) :
    reliable.hold (provision w).run luck s = (.error (.docker (nameTaken w.name)), s) := by
  have provided := hold_provision w luck s
  generalize reliable.hold (provision w).run luck s = result at provided ⊢
  cases provided with
  | badPort parsed' => cases parsed.symm.trans parsed'
  | taken => rfl
  | running _ free => cases free.symm.trans found

/-! ## What is removed -/

/-- After whatever has happened, a deprovision whose calls do not fail otherwise removes the
container of an instance exactly if it runs, and then the instance can be provisioned again. A
container that does not run stays with its name. If everything has gone smoothly, the container
runs. -/
theorem deprovision_removes_running (internalAddress externalAddress : String)
    (events : List Event) (i : String) {b : Container} {luck : Nat → daemon.Chance}
    (found : after (platform internalAddress externalAddress) events .empty i = some b)
    (lucky : World.Lucky luck) :
    let s := after (platform internalAddress externalAddress) events .empty
    let removed := daemon.hold (deprovision i).run luck s
    (b.status = .running →
      removed = (.ok (), Function.update s i none) ∧
        ∀ image specs, (∃ ports, Port.parseAll specs = .ok ports) →
          ∀ luck : Nat → daemon.Chance, World.Lucky luck →
            (daemon.hold (provision ⟨i, image, specs⟩).run luck removed.2).1 = .ok ()) ∧
    (b.status ≠ .running →
      removed = (.error (.docker notModified), s) ∧
        ∀ image specs, (∃ ports, Port.parseAll specs = .ok ports) →
          ∀ luck : Nat → daemon.Chance, World.Lucky luck →
            daemon.hold (provision ⟨i, image, specs⟩).run luck removed.2 =
              (.error (.docker (nameTaken i)), s)) ∧
    ((∀ event ∈ events, event.Smooth) → b.status = .running) := by
  intro s removed
  have hremoved : removed = reliable.hold (deprovision i).run (fun n => (luck n).1) s :=
    World.hold_faulty lucky s
  -- a container that runs is stopped first; one that does not is not even asked to be removed
  refine ⟨fun running => ?_, fun idle => ?_, fun smooth => ?_⟩
  · rw [hremoved, hold_deprovision_of_running found running]
    refine ⟨rfl, ?_⟩
    rintro image specs ⟨ports, hports⟩ luck' lucky'
    rw [World.hold_faulty lucky']
    exact hold_provision_of_free (w := ⟨i, image, specs⟩)
      (Workload.parsedPorts_eq_ok_iff.mpr hports) (Function.update_self ..)
  · rw [hremoved, hold_deprovision_of_not_running found idle]
    refine ⟨rfl, ?_⟩
    rintro image specs ⟨ports, hports⟩ luck' lucky'
    rw [World.hold_faulty lucky']
    exact hold_provision_of_taken (w := ⟨i, image, specs⟩)
      (Workload.parsedPorts_eq_ok_iff.mpr hports) found
  · have nothing : AllRunning .empty := fun _ _ found => nomatch found
    exact allRunning_after internalAddress externalAddress smooth nothing i b found

/-- No mishap happens, and everything else is as simple as can be. -/
def calm : Nat → daemon.Chance := fun _ => (default, none)

/-- A container has been provisioned. -/
def started : List Event := [.request ⟨"inst-1", .provision "nimak/geth" []⟩ calm]

/-- A container has been created, and its start has failed. -/
def unstarted : List Event :=
  [.request ⟨"inst-1", .provision "nimak/geth" []⟩ fun n =>
    (default, if n = 2 then some ⟨.refused 500 "cannot start", false⟩ else none)]

/-- A container that has been provisioned is removed, and one whose start has failed is not. -/
theorem started_removed_unstarted_kept :
    let p := platform "127.0.0.1" "12.34.56.78"
    (daemon.hold (deprovision "inst-1").run calm (after p started .empty)).1 = .ok () ∧
      after p unstarted .empty "inst-1" = some ⟨.ofPorts "nimak/geth" [], .created, []⟩ ∧
      daemon.hold (deprovision "inst-1").run calm (after p unstarted .empty) =
        (.error (.docker notModified), after p unstarted .empty) := by
  intro p
  have lucky : World.Lucky calm := fun _ => rfl
  have runs : after p started .empty "inst-1" =
      some ⟨.ofPorts "nimak/geth" [], .running, []⟩ := rfl
  have found : after p unstarted .empty "inst-1" =
      some ⟨.ofPorts "nimak/geth" [], .created, []⟩ := rfl
  obtain ⟨hrunning, -⟩ :=
    deprovision_removes_running "127.0.0.1" "12.34.56.78" started "inst-1" runs lucky
  obtain ⟨-, hidle, -⟩ :=
    deprovision_removes_running "127.0.0.1" "12.34.56.78" unstarted "inst-1" found lucky
  exact ⟨congrArg Prod.fst (hrunning rfl).1, found, (hidle Status.noConfusion).1⟩

end ChainBroker.Docker
