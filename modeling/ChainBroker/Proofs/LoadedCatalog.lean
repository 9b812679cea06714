import ChainBroker.Proofs.Bind
import ChainBroker.Proofs.Deployment
import ChainBroker.Proofs.Docker
import ChainBroker.Proofs.Download
import ChainBroker.Proofs.Kubernetes
import ChainBroker.Proofs.Loader
import ChainBroker.Proofs.Setup

/-!
# What a loaded catalog promises

The ports of a plan are texts, and the platforms and the broker read them again each time. If the
catalog can be run, none of these readings fails, whatever the surroundings do.

1. A platform is asked what it fails with: with a bad port only if the workload has one, and never
   with a missing port (`Platform.KeepsPorts`). Both platforms are like that.
2. The downloads and the deployments of a setup fail with nothing of the kind either, except for the
   very port that is deployed to, which has digits for its name.
3. So no operation over a catalog that can be run ends in such a failure (`Broker.Setup.Runs`).
-/

namespace ChainBroker

open Dialogue Attempt

variable {I : Interface}

/-! ## Platforms -/

/-- A platform that reads no ports but those of the workload. -/
structure Platform.KeepsPorts (platform : Platform I) : Prop where
  /-- A bad port is one of the workload. -/
  provision : ∀ w log spec reason,
    Transcript (platform.provision w).run log (.error (.invalidPort spec reason)) →
    ∃ e, w.parsedPorts = .error e
  /-- No port is missed. -/
  bind : ∀ instanceId bindingId log port,
    ¬Transcript (platform.bind instanceId bindingId).run log (.error (.portMissing port))

theorem Docker.platform_keepsPorts (internalAddress externalAddress : String) :
    (Docker.platform internalAddress externalAddress).KeepsPorts where
  provision w log spec reason h := by
    rcases (Docker.transcript_provision h).of_error with ⟨cause, he⟩ | parsed
    · cases he
    · exact ⟨_, parsed⟩
  bind instanceId bindingId log port h := by
    obtain ⟨inspected, -, hr⟩ := Docker.transcript_bind h
    cases inspected <;> cases hr

theorem Kubernetes.platform_keepsPorts (host : String) :
    (Kubernetes.platform host).KeepsPorts where
  provision w log spec reason h := by
    rcases (Kubernetes.transcript_provision h).of_error with ⟨cause, he⟩ | parsed
    · cases he
    · exact ⟨_, parsed⟩
  bind instanceId bindingId log port h := by
    obtain ⟨shown, -, hr⟩ := Kubernetes.transcript_bind h
    cases shown <;> cases hr

/-! ## Plans -/

theorem Catalog.plan_eq_error {catalog : Catalog} {serviceId planId : String} {e : Failure}
    (h : catalog.plan serviceId planId = .error e) :
    e = .serviceNotFound serviceId ∨ e = .planNotFound planId := by
  unfold Catalog.plan Catalog.service at h
  cases hservice : catalog.entries.lookup serviceId with
  | none =>
    simp only [hservice] at h
    cases h
    exact .inl rfl
  | some service =>
    simp only [hservice] at h
    unfold Service.plan at h
    cases hplan : service.plans.lookup planId with
    | none =>
      simp only [hplan] at h
      cases h
      exact .inr rfl
    | some plan => simp [hplan] at h

/-- The port to deploy to has a number. -/
theorem Plan.Runnable.primaryPort? {plan : Plan} (h : plan.Runnable) :
    ∃ port : Port, plan.primaryPort? = some port.digits := by
  obtain ⟨first, rest, parsed⟩ := h.parseAll
  exact ⟨first, Plan.primaryPort?_eq parsed⟩

theorem Plan.Runnable.parsedPorts {plan : Plan} (h : plan.Runnable) (instanceId : String) :
    ∃ first rest, (plan.workload instanceId).parsedPorts = .ok (first :: rest) := by
  obtain ⟨first, rest, parsed⟩ := h.parseAll
  exact ⟨first, rest, Workload.parsedPorts_eq_ok_iff.mpr parsed⟩

namespace Broker

/-! ## Setups -/

variable {catalog : Catalog} {s : Setup I}

/-- A setup in which the ports of the plans are no obstacle. -/
structure Setup.Runs (s : Setup I) (catalog : Catalog) : Prop where
  /-- No provision fails because of a text that is no port. -/
  provision : ∀ serviceId planId instanceId log result,
    Transcript (s.run (provision catalog serviceId planId instanceId)).run log result →
    ∀ spec reason, result ≠ .error (.invalidPort spec reason)
  /-- No bind fails because there is no port to deploy to. -/
  bind : ∀ serviceId planId instanceId bindingId payload log result,
    Transcript (s.run (bind catalog serviceId planId instanceId bindingId payload)).run log result →
    result ≠ .error (.portMissing "<none declared by plan>")

/-- No number is written like this. -/
theorem digits_ne_none (port : Port) : port.digits ≠ "<none declared by plan>" := by
  intro h
  have hmem : '<' ∈ port.digits.toList := by rw [h]; decide
  have hdigit := Port.isDigit_of_mem_digits hmem
  cases hdigit

theorem Setup.runs_provision (keeps : s.platform.KeepsPorts) (runnable : catalog.Runnable)
    {serviceId planId instanceId : String} {log : List (Exchange (Surroundings I))}
    {result : Except Failure Unit}
    (h : Transcript (s.run (provision catalog serviceId planId instanceId)).run log result)
    (spec reason : String) : result ≠ .error (.invalidPort spec reason) := by
  rintro rfl
  obtain ⟨outer, h1, spelled⟩ := transcript_run_iff.mp h
  rcases transcript_provision h1 with ⟨e, lookup, -, he⟩ | ⟨plan, lookup, rfl⟩
  · cases he
    rcases Catalog.plan_eq_error lookup with he | he <;> cases he
  · obtain ⟨inner, h2, -⟩ := transcript_onPlatform_iff.mp (spelled_singleton_iff.mp spelled)
    obtain ⟨e, he⟩ := keeps.provision _ _ _ _ h2
    obtain ⟨first, rest, parsed⟩ := (runnable.plan lookup).2.parsedPorts instanceId
    rw [parsed] at he
    cases he

theorem Setup.runs_bind (keeps : s.platform.KeepsPorts) (runnable : catalog.Runnable)
    {serviceId planId instanceId bindingId : String} {payload : Bytes}
    {log : List (Exchange (Surroundings I))} {result : Except Failure Credentials}
    (h : Transcript (s.run (bind catalog serviceId planId instanceId bindingId payload)).run log
      result) :
    result ≠ .error noPort := by
  rintro rfl
  obtain ⟨outer, h1, spelled⟩ := transcript_run_iff.mp h
  -- the result is named, so that the cases of the course keep it as an equation
  generalize hr : (Except.error noPort : Except Failure Credentials) = r at h1
  cases transcript_bind h1 with
  | unknown lookup =>
    cases hr
    rcases Catalog.plan_eq_error lookup with he | he <;> cases he
  | unreadable | unnamed => cases hr
  | @undownloaded _ _ _ _ url _ e =>
    cases hr
    obtain ⟨inner, h2, -⟩ := transcript_besides_iff.mp (spelled_singleton_iff.mp spelled)
    rcases (Contract.transcript_download h2).failure with ⟨reason, he⟩ | ⟨cause, he⟩ <;> cases he
  | @downloaded plan lookup _ _ _ _ _ said _ connected =>
    obtain ⟨port, hport⟩ := (runnable.plan lookup).2.primaryPort?
    cases connected with
    | unbound =>
      cases hr
      obtain ⟨inner, h2, -⟩ := spelled.exists_transcript (List.mem_cons_of_mem _ List.mem_cons_self)
      obtain ⟨inner, h3, -⟩ := transcript_onPlatform_iff.mp h2
      exact keeps.bind _ _ _ _ h3
    -- the plans of a loaded catalog have a first port
    | portless _ noPrimary =>
      rw [hport] at noPrimary
      cases noPrimary
    | undeployed inst primaryPort primary =>
      cases hr
      rw [hport] at primary
      cases primary
      obtain ⟨inner, h2, -⟩ := spelled.exists_transcript
        (List.mem_cons_of_mem _ (List.mem_cons_of_mem _ List.mem_cons_self))
      obtain ⟨inner, h3, -⟩ := transcript_deploy_iff.mp h2
      obtain ⟨hmissing, -⟩ := (DeployTool.transcript_deploy h3).of_portMissing
      exact digits_ne_none port hmissing.symm
    | deployed => cases hr

theorem Setup.runs_of_runnable (keeps : s.platform.KeepsPorts) (runnable : catalog.Runnable) :
    s.Runs catalog where
  provision _ _ _ _ _ h := Setup.runs_provision keeps runnable h
  bind _ _ _ _ _ _ _ h := Setup.runs_bind keeps runnable h

/-- What a provision says to a cluster is said by its platform, for a plan of the catalog. -/
theorem transcript_run_provision {serviceId planId instanceId : String}
    {log : List (Exchange (Surroundings I))} {result : Except Failure Unit}
    (h : Transcript (s.run (provision catalog serviceId planId instanceId)).run log result)
    {q : I.Question} {a : I.Answer q} (hmem : ⟨.inl q, a⟩ ∈ log) :
    ∃ plan inner, catalog.plan serviceId planId = .ok plan ∧ ⟨q, a⟩ ∈ inner ∧
      Transcript (s.platform.provision (plan.workload instanceId)).run inner result := by
  obtain ⟨outer, h1, spelled⟩ := transcript_run_iff.mp h
  rcases transcript_provision h1 with ⟨e, -, rfl, -⟩ | ⟨plan, lookup, rfl⟩
  · cases spelled
    simp at hmem
  · obtain ⟨inner, h2, rfl⟩ := transcript_onPlatform_iff.mp (spelled_singleton_iff.mp spelled)
    obtain ⟨exchange, hexchange, heq⟩ := List.mem_map.mp hmem
    cases heq
    exact ⟨plan, inner, lookup, hexchange, h2⟩

/-! ## Objects of a cluster -/

section Kubernetes

variable {host : String} {tool : DeployTool} {timeout : Nat}
  {serviceId planId instanceId : String} {log : List (Exchange (Surroundings Kubernetes.interface))}
  {result : Except Failure Unit}

theorem pod_ports_ne_nil (runnable : catalog.Runnable)
    (h : Transcript (Setup.run ⟨Kubernetes.platform host, tool, timeout⟩
      (provision catalog serviceId planId instanceId)).run log result)
    {pod : Kubernetes.Pod} {created : Except Kubernetes.Fault Unit}
    (hmem : ⟨.inl (.createPod pod), created⟩ ∈ log) : pod.ports ≠ [] := by
  obtain ⟨plan, inner, lookup, hinner, hplatform⟩ := transcript_run_provision h hmem
  obtain ⟨ports, parsed, rfl⟩ := (Kubernetes.transcript_provision hplatform).of_createPod hinner
  obtain ⟨first, rest, parsed'⟩ := (runnable.plan lookup).2.parsedPorts instanceId
  rw [parsed'] at parsed
  cases parsed
  exact List.cons_ne_nil _ _

theorem exists_service_port (runnable : catalog.Runnable)
    (h : Transcript (Setup.run ⟨Kubernetes.platform host, tool, timeout⟩
      (provision catalog serviceId planId instanceId)).run log result)
    {service : Kubernetes.Service} {created : Except Kubernetes.Fault Unit}
    (hmem : ⟨.inl (.createService service), created⟩ ∈ log) :
    ∃ spec port ports, service.spec = some spec ∧ spec.ports = some (port :: ports) := by
  obtain ⟨plan, inner, lookup, hinner, hplatform⟩ := transcript_run_provision h hmem
  obtain ⟨ports, parsed, rfl⟩ :=
    (Kubernetes.transcript_provision hplatform).of_createService hinner
  obtain ⟨first, rest, parsed'⟩ := (runnable.plan lookup).2.parsedPorts instanceId
  rw [parsed'] at parsed
  cases parsed
  exact ⟨_, .ofPort first, rest.map .ofPort, rfl, rfl⟩

end Kubernetes

end Broker

/-! ## Loaded catalogs -/

/-- A catalog that both platforms can run, whatever they, the servers and the tool do. -/
structure Catalog.Sound (catalog : Catalog) : Prop where
  /-- The catalog holds nothing that cannot be run. -/
  runnable : catalog.Runnable
  /-- Every plan that is found has a port to deploy to. -/
  primary : ∀ serviceId planId plan, catalog.plan serviceId planId = .ok plan →
    ∃ n, 1 ≤ n ∧ n ≤ 65535 ∧ plan.primaryPort? = some (toString n)
  /-- Ports are no obstacle with Docker. -/
  docker : ∀ internalAddress externalAddress tool timeout,
    Broker.Setup.Runs ⟨Docker.platform internalAddress externalAddress, tool, timeout⟩ catalog
  /-- Ports are no obstacle with Kubernetes. -/
  kubernetes : ∀ host tool timeout,
    Broker.Setup.Runs ⟨Kubernetes.platform host, tool, timeout⟩ catalog
  /-- Every pod that is sent has a port. -/
  pods : ∀ host tool timeout serviceId planId instanceId log result,
    Transcript (Broker.Setup.run ⟨Kubernetes.platform host, tool, timeout⟩
      (Broker.provision catalog serviceId planId instanceId)).run log result →
    ∀ pod created, ⟨.inl (.createPod pod), created⟩ ∈ log → pod.ports ≠ []
  /-- Every service that is sent has a port. -/
  services : ∀ host tool timeout serviceId planId instanceId log result,
    Transcript (Broker.Setup.run ⟨Kubernetes.platform host, tool, timeout⟩
      (Broker.provision catalog serviceId planId instanceId)).run log result →
    ∀ service created, ⟨.inl (.createService service), created⟩ ∈ log →
      ∃ spec port ports, service.spec = some spec ∧ spec.ports = some (port :: ports)

/-- What the loader accepts can be run. -/
theorem Catalog.sound_of_load {dir : String} {freshIds : Catalog.FreshIds}
    {listing : Except OsError Listing} {catalog : Catalog}
    (loaded : Catalog.load dir freshIds listing = .ok catalog) : catalog.Sound := by
  have runnable : catalog.Runnable := Catalog.runnable_of_load loaded
  exact
    { runnable := runnable
      primary := fun serviceId planId plan lookup => by
        obtain ⟨port, hport⟩ := (runnable.plan lookup).2.primaryPort?
        exact ⟨port.number, port.number_pos, Nat.le_of_lt_succ port.number_lt, hport⟩
      docker := fun internalAddress externalAddress tool timeout =>
        Broker.Setup.runs_of_runnable (Docker.platform_keepsPorts _ _) runnable
      kubernetes := fun host tool timeout =>
        Broker.Setup.runs_of_runnable (Kubernetes.platform_keepsPorts _) runnable
      pods := fun host tool timeout serviceId planId instanceId log result h pod created =>
        Broker.pod_ports_ne_nil runnable h
      services := fun host tool timeout serviceId planId instanceId log result h service created =>
        Broker.exists_service_port runnable h }

/-- The catalog of the directory with one service can be run. -/
theorem ethCatalog_sound : Catalog.ethCatalog.Sound := Catalog.sound_of_load Catalog.load_eth

end ChainBroker
