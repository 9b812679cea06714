import ChainBroker.Proofs.Docker
import ChainBroker.Proofs.Kubernetes

/-!
# The steps of a provision

A provision is a list of steps. Each of them says something and succeeds or fails, and they are taken
in order up to the first one that fails, which settles the result (`Step.Taken`).

* On Docker the image is asked for, the items of the report on the pull are taken one by one, the
  texts of the ports are read, and the container is created and started.
* On a cluster the texts of the ports are read first, and then the pod and the service are created.

The reading of the ports says nothing, but it fails like any other step. So it cuts off the
container in the first case and everything in the second one (`provision_steps`).
-/

namespace ChainBroker

open Dialogue

/-! ## Steps -/

/-- A step: what is said in it, and what comes of it. -/
structure Step (I : Interface) where
  said : List (Exchange I)
  result : Except Failure Unit

namespace Step

variable {I : Interface} {step : Step I} {steps : List (Step I)} {log : List (Exchange I)}
  {r : Except Failure Unit} {e : Failure}

def fails (step : Step I) : Bool := !step.result.isOk

/-- The steps are taken up to the first one that fails, and nothing else is said. -/
structure Taken (steps : List (Step I)) (log : List (Exchange I)) (r : Except Failure Unit) :
    Prop where
  log_eq : log = (steps.take (steps.findIdx fails + 1)).flatMap said
  ok_iff : r = .ok () ↔ ∀ step ∈ steps, step.result = .ok ()
  error_iff : ∀ e, r = .error e ↔ ∃ before step after, steps = before ++ step :: after ∧
    (∀ earlier ∈ before, earlier.result = .ok ()) ∧ step.result = .error e

theorem taken_nil : Taken (I := I) [] [] (.ok ()) where
  log_eq := rfl
  ok_iff := by simp
  error_iff := by simp

theorem Taken.cons_ok (h : Taken steps log r) (succeeds : step.result = .ok ()) :
    Taken (step :: steps) (step.said ++ log) r where
  log_eq := by
    have hfails : fails step = false := by simp [fails, succeeds, Except.isOk, Except.toBool]
    rw [List.findIdx_cons, hfails, h.log_eq]
    rfl
  ok_iff := by
    rw [h.ok_iff, List.forall_mem_cons]
    exact ⟨fun hsteps => ⟨succeeds, hsteps⟩, fun hsteps => hsteps.2⟩
  error_iff e := by
    rw [h.error_iff]
    constructor
    · rintro ⟨before, failed, after, rfl, hbefore, hfailed⟩
      exact ⟨step :: before, failed, after, rfl,
        List.forall_mem_cons.mpr ⟨succeeds, hbefore⟩, hfailed⟩
    · rintro ⟨before, failed, after, hsteps, hbefore, hfailed⟩
      cases before with
      | nil =>
        -- the first step does not fail
        obtain ⟨rfl, -⟩ := List.cons.inj hsteps
        rw [succeeds] at hfailed
        cases hfailed
      | cons first before =>
        obtain ⟨-, rfl⟩ := List.cons.inj hsteps
        exact ⟨before, failed, after, rfl, (List.forall_mem_cons.mp hbefore).2, hfailed⟩

theorem taken_cons_error (failed : step.result = .error e) :
    Taken (step :: steps) step.said (.error e) where
  log_eq := by
    have hfails : fails step = true := by simp [fails, failed, Except.isOk, Except.toBool]
    rw [List.findIdx_cons, hfails]
    simp
  ok_iff := by simp [failed]
  error_iff e' := by
    constructor
    · rintro ⟨⟩
      exact ⟨[], step, steps, rfl, nofun, failed⟩
    · rintro ⟨before, other, after, hsteps, hbefore, hother⟩
      cases before with
      | nil =>
        obtain ⟨rfl, -⟩ := List.cons.inj hsteps
        rw [← hother, failed]
      | cons first before =>
        obtain ⟨rfl, -⟩ := List.cons.inj hsteps
        have hfirst := (List.forall_mem_cons.mp hbefore).1
        rw [failed] at hfirst
        cases hfirst

/-- The last step may fail or not. -/
theorem taken_singleton (step : Step I) : Taken [step] step.said step.result := by
  cases hresult : step.result with
  | error e => exact taken_cons_error hresult
  | ok =>
    have h := taken_nil.cons_ok hresult
    rwa [List.append_nil] at h

/-- The texts of the ports of a workload are read. -/
def readPorts (w : Workload) : Step I where
  said := []
  result := w.parsedPorts.map fun _ => ()

theorem readPorts_of_ok {w : Workload} {ports : List Port} (parsed : w.parsedPorts = .ok ports) :
    (readPorts w : Step I).result = .ok () := by
  rw [readPorts, parsed]
  rfl

theorem readPorts_of_error {w : Workload} (parsed : w.parsedPorts = .error e) :
    (readPorts w : Step I).result = .error e := by
  rw [readPorts, parsed]
  rfl

end Step

/-! ## Docker -/

namespace Docker

variable {w : Workload} {log : List (Exchange interface)} {r : Except Failure Unit}

def pullStep (image : String) (report : List PullItem) : Step interface where
  said := [⟨.pull image, report⟩]
  result := .ok ()

def itemStep (item : PullItem) : Step interface where
  said := [⟨.pulled item, ()⟩]
  result := (item.mapError .docker).map fun _ => ()

/-- The container is created and started. -/
def makingSteps (w : Workload) (ports : List Port) (created started : Except Fault Unit) :
    List (Step interface) :=
  [⟨[⟨.create w.name (.ofPorts w.image ports), created⟩], created.mapError .docker⟩,
    ⟨[⟨.start w.name, started⟩], started.mapError .docker⟩]

/-- All steps. No container can be made of ports that cannot be read. -/
def steps (w : Workload) (report : List PullItem) (created started : Except Fault Unit) :
    List (Step interface) :=
  pullStep w.image report :: report.map itemStep ++ Step.readPorts w ::
    match w.parsedPorts with
    | .ok ports => makingSteps w ports created started
    | .error _ => []

/-- The steps of a provision on Docker, and what follows for the container. -/
structure Proceeds (w : Workload) (log : List (Exchange interface)) (r : Except Failure Unit) :
    Prop where
  steps : ∃ report created started, Step.Taken (steps w report created started) log r
  /-- The container is created exactly if the report tells of no error and the ports can be read. -/
  creates : ∀ name config, (∃ created, ⟨.create name config, created⟩ ∈ log) ↔
    (∀ item, ⟨.pulled item, ()⟩ ∈ log → item.isOk = true) ∧ name = w.name ∧
      ∃ ports, w.ports.map Port.parse = ports.map .ok ∧ config = .ofPorts w.image ports
  /-- It is started exactly if it has been created. -/
  starts : ∀ name, (∃ started, ⟨.start name, started⟩ ∈ log) ↔
    ∃ config, ⟨.create name config, .ok ()⟩ ∈ log

/-- A report without an error is passed over. -/
theorem Followed.taken_append {report : List PullItem} (h : Followed report log (.ok ()))
    {steps : List (Step interface)} {log' : List (Exchange interface)}
    (hsteps : Step.Taken steps log' r) :
    Step.Taken (report.map itemStep ++ steps) (log ++ log') r := by
  generalize hr : (Except.ok () : Except Failure Unit) = followed at h
  induction h with
  | finished => exact hsteps
  | progress rest ih => exact (ih hr).cons_ok rfl
  | failed cause items => cases hr

/-- An error in the report is the last that is taken. -/
theorem Followed.taken_of_error {report : List PullItem} {e : Failure}
    (h : Followed report log (.error e)) (steps : List (Step interface)) :
    Step.Taken (report.map itemStep ++ steps) log (.error e) := by
  generalize hr : (Except.error e : Except Failure Unit) = followed at h
  induction h with
  | finished => cases hr
  | progress rest ih => exact (ih hr).cons_ok rfl
  | failed cause items =>
    cases hr
    exact Step.taken_cons_error rfl

theorem taken_makingSteps_of_error (w : Workload) (ports : List Port) (cause : Fault) :
    Step.Taken (makingSteps w ports (.error cause) (.ok ()))
      [⟨.create w.name (.ofPorts w.image ports), .error cause⟩] (.error (.docker cause)) :=
  Step.taken_cons_error rfl

theorem taken_makingSteps (w : Workload) (ports : List Port) (started : Except Fault Unit) :
    Step.Taken (makingSteps w ports (.ok ()) started)
      [⟨.create w.name (.ofPorts w.image ports), .ok ()⟩, ⟨.start w.name, started⟩]
      (started.mapError .docker) :=
  (Step.taken_singleton _).cons_ok rfl

theorem Provisioned.taken (h : Provisioned w log r) :
    ∃ report created started, Step.Taken (steps w report created started) log r := by
  unfold steps
  -- what the platform says is taken as the report and the outcomes of the steps
  cases h with
  | @unpulled report said e followed =>
    exact ⟨report, .ok (), .ok (), (followed.taken_of_error _).cons_ok rfl⟩
  | @badPort report said followed e parsed =>
    refine ⟨report, .ok (), .ok (), ?_⟩
    have hports : Step.Taken [(Step.readPorts w : Step interface)] [] (.error e) :=
      Step.taken_cons_error (Step.readPorts_of_error parsed)
    have hreport := followed.taken_append hports
    rw [List.append_nil] at hreport
    rw [parsed]
    exact hreport.cons_ok rfl
  | @uncreated report said followed ports parsed cause =>
    refine ⟨report, .error cause, .ok (), ?_⟩
    have hmaking := taken_makingSteps_of_error w ports cause
    have hports := hmaking.cons_ok (Step.readPorts_of_ok parsed)
    rw [parsed]
    exact (followed.taken_append hports).cons_ok rfl
  | @created report said followed ports parsed started =>
    refine ⟨report, .ok (), started, ?_⟩
    have hmaking := taken_makingSteps w ports started
    have hports := hmaking.cons_ok (Step.readPorts_of_ok parsed)
    rw [parsed]
    exact (followed.taken_append hports).cons_ok rfl

/-- The report tells of no error exactly if no error is taken from it. -/
theorem Followed.eq_ok_iff {report : List PullItem} (h : Followed report log r) :
    r = .ok () ↔ ∀ item, ⟨.pulled item, ()⟩ ∈ log → item.isOk = true := by
  induction h with
  | finished => simp
  | progress rest ih =>
    rw [ih]
    simp [Except.isOk, Except.toBool]
  | failed cause items => simp [Except.isOk, Except.toBool]

theorem Followed.create_notMem {report : List PullItem} (h : Followed report log r)
    (name : String) (config : ContainerConfig) (created : Except Fault Unit) :
    ⟨.create name config, created⟩ ∉ log := by
  intro hmem
  obtain ⟨item, hitem⟩ := h.pulled _ hmem
  cases hitem

theorem Followed.start_notMem {report : List PullItem} (h : Followed report log r) (name : String)
    (started : Except Fault Unit) : ⟨.start name, started⟩ ∉ log := by
  intro hmem
  obtain ⟨item, hitem⟩ := h.pulled _ hmem
  cases hitem

theorem Provisioned.creates_iff (h : Provisioned w log r) (name : String)
    (config : ContainerConfig) :
    (∃ created, ⟨.create name config, created⟩ ∈ log) ↔
      (∀ item, ⟨.pulled item, ()⟩ ∈ log → item.isOk = true) ∧ name = w.name ∧
        ∃ ports, w.ports.map Port.parse = ports.map .ok ∧ config = .ofPorts w.image ports := by
  simp only [← Port.parseAll_eq_ok_iff, ← Workload.parsedPorts_eq_ok_iff]
  cases h with
  | unpulled followed =>
    have hfails := followed.eq_ok_iff
    constructor
    · simp [followed.create_notMem]
    · rintro ⟨hitems, -⟩
      have hok := hfails.mpr fun item hitem => hitems item (List.mem_cons_of_mem _ hitem)
      cases hok
  | badPort followed parsed => simp [followed.create_notMem, parsed]
  | uncreated followed parsed | created followed parsed =>
    have hitems := followed.eq_ok_iff.mp rfl
    constructor
    · simp [followed.create_notMem, parsed]
      intro hname hconfig
      exact ⟨hitems, hname, hconfig⟩
    · rintro ⟨-, rfl, ports, hports, rfl⟩
      rw [parsed] at hports
      cases hports
      simp

theorem Provisioned.starts_iff (h : Provisioned w log r) (name : String) :
    (∃ started, ⟨.start name, started⟩ ∈ log) ↔ ∃ config, ⟨.create name config, .ok ()⟩ ∈ log := by
  cases h with
  | unpulled followed | badPort followed | uncreated followed | created followed =>
    simp [followed.create_notMem, followed.start_notMem]

end Docker

/-! ## Kubernetes -/

namespace Kubernetes

variable {w : Workload} {log : List (Exchange interface)} {r : Except Failure Unit}

/-- The pod and the service are created. -/
def makingSteps (w : Workload) (ports : List Port) (pod service : Except Fault Unit) :
    List (Step interface) :=
  [⟨[⟨.createPod (.ofPorts w.name w.image ports), pod⟩], pod.mapError .kubernetes⟩,
    ⟨[⟨.createService (.ofPorts w.name ports), service⟩], service.mapError .kubernetes⟩]

/-- All steps. Neither a pod nor a service can be made of ports that cannot be read. -/
def steps (w : Workload) (pod service : Except Fault Unit) : List (Step interface) :=
  Step.readPorts w ::
    match w.parsedPorts with
    | .ok ports => makingSteps w ports pod service
    | .error _ => []

/-- The steps of a provision on a cluster, and what follows for the pod and the service. -/
structure Proceeds (w : Workload) (log : List (Exchange interface)) (r : Except Failure Unit) :
    Prop where
  steps : ∃ pod service, Step.Taken (steps w pod service) log r
  /-- The pod is created exactly if the ports can be read. -/
  createsPod : ∀ pod, (∃ created, ⟨.createPod pod, created⟩ ∈ log) ↔
    ∃ ports, w.ports.map Port.parse = ports.map .ok ∧ pod = .ofPorts w.name w.image ports
  /-- The service is created exactly if the pod has been created. -/
  createsService : ∀ service, (∃ created, ⟨.createService service, created⟩ ∈ log) ↔
    ∃ ports, w.ports.map Port.parse = ports.map .ok ∧ service = .ofPorts w.name ports ∧
      ⟨.createPod (.ofPorts w.name w.image ports), .ok ()⟩ ∈ log

theorem Provisioned.taken (h : Provisioned w log r) :
    ∃ pod service, Step.Taken (steps w pod service) log r := by
  unfold steps
  cases h with
  | badPort parsed =>
    exact ⟨.ok (), .ok (), Step.taken_cons_error (Step.readPorts_of_error parsed)⟩
  | @podless ports parsed cause =>
    refine ⟨.error cause, .ok (), ?_⟩
    have hmaking : Step.Taken (makingSteps w ports (.error cause) (.ok ()))
        [⟨.createPod (.ofPorts w.name w.image ports), .error cause⟩]
        (.error (.kubernetes cause)) := Step.taken_cons_error rfl
    rw [parsed]
    exact hmaking.cons_ok (Step.readPorts_of_ok parsed)
  | @pod ports parsed created =>
    refine ⟨.ok (), created, ?_⟩
    have hmaking : Step.Taken (makingSteps w ports (.ok ()) created)
        [⟨.createPod (.ofPorts w.name w.image ports), .ok ()⟩,
          ⟨.createService (.ofPorts w.name ports), created⟩]
        (created.mapError .kubernetes) := (Step.taken_singleton _).cons_ok rfl
    rw [parsed]
    exact hmaking.cons_ok (Step.readPorts_of_ok parsed)

theorem Provisioned.proceeds (h : Provisioned w log r) : Proceeds w log r := by
  refine ⟨h.taken, fun pod => ?_, fun service => ?_⟩
  all_goals
    simp only [← Port.parseAll_eq_ok_iff, ← Workload.parsedPorts_eq_ok_iff]
    cases h with
    | badPort parsed | podless parsed | pod parsed => simp [parsed]

end Kubernetes

/-- **What a provision does, in order, on both platforms.** Whoever answers, the steps are taken up
to the first one that fails; the provision succeeds if there is none, and else fails with the
failure of this step. -/
theorem provision_steps (w : Workload) (daemon : Behaviour Docker.interface)
    (cluster : Behaviour Kubernetes.interface) :
    let onDocker := (Docker.provision w).run.hold daemon
    let onCluster := (Kubernetes.provision w).run.hold cluster
    Docker.Proceeds w onDocker.2 onDocker.1 ∧ Kubernetes.Proceeds w onCluster.2 onCluster.1 := by
  intro onDocker onCluster
  have hdocker : Docker.Provisioned w onDocker.2 onDocker.1 :=
    Docker.transcript_provision (transcript_hold daemon _)
  have hcluster : Kubernetes.Provisioned w onCluster.2 onCluster.1 :=
    Kubernetes.transcript_provision (transcript_hold cluster _)
  exact ⟨⟨hdocker.taken, hdocker.creates_iff, hdocker.starts_iff⟩, hcluster.proceeds⟩

end ChainBroker
