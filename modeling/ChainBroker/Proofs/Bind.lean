import ChainBroker.Broker
import ChainBroker.Proofs.Dialogue

/-!
# The order of a bind

A bind looks up the plan, reads the payload, downloads the contract, asks where the instance is, and
has the contract deployed there. The first of these that fails is the last one that happens.

* `BindRequest.Asks` is what a payload asks for, by its bytes.
* `Broker.Course` lists the courses that a bind can take, with all that is said on the way.
* `Broker.transcript_bind`: there are no others.
* `Broker.Staged` is the law that follows for every course, in terms of the effects alone.
-/

namespace ChainBroker

open Dialogue Attempt

/-! ## Payloads -/

/-- A payload is unreadable if it is not blank and the decoder of requests fails on it. -/
theorem BindRequest.ofPayload_eq_error_iff {payload : Bytes} {cause : Json.Fault} :
    BindRequest.ofPayload payload = .error cause ↔
      payload.all BindRequest.isAsciiBlank = false ∧
        Json.decode (Json.nullable BindRequest.reader) (Utf8.pieces payload) = .error cause := by
  unfold BindRequest.ofPayload
  cases hblank : payload.all BindRequest.isAsciiBlank with
  | true => simp
  | false =>
    cases hread : Json.decode (Json.nullable BindRequest.reader) (Utf8.pieces payload) with
    | error e => simp [Except.map]
    | ok request => simp [Except.map]

/-- What a payload asks for, by its bytes. -/
inductive BindRequest.Asks (payload : Bytes) : BindRequest → Prop where
  /-- Blanks alone ask for nothing. -/
  | blank (blank : payload.all isAsciiBlank = true) : Asks payload ⟨none, []⟩
  /-- So does null. -/
  | null (notBlank : payload.all isAsciiBlank = false)
    (read : Json.decode (Json.nullable reader) (Utf8.pieces payload) = .ok none) :
    Asks payload ⟨none, []⟩
  /-- All else asks for what is read. -/
  | read (notBlank : payload.all isAsciiBlank = false) (request : BindRequest)
    (read : Json.decode (Json.nullable reader) (Utf8.pieces payload) = .ok (some request)) :
    Asks payload request

/-- A payload is taken for what it asks for. -/
theorem BindRequest.asks_iff {payload : Bytes} {request : BindRequest} :
    BindRequest.Asks payload request ↔ BindRequest.ofPayload payload = .ok request := by
  unfold BindRequest.ofPayload
  constructor
  · rintro (hblank | ⟨notBlank, hread⟩ | ⟨notBlank, _, hread⟩)
    · rw [if_pos hblank]
    · simp [notBlank, hread, Except.map]
    · simp [notBlank, hread, Except.map]
  · intro h
    split at h
    · next hblank =>
      cases h
      exact .blank hblank
    · next notBlank =>
      rw [Bool.not_eq_true] at notBlank
      cases hread : Json.decode (Json.nullable BindRequest.reader) (Utf8.pieces payload) with
      | error cause =>
        rw [hread] at h
        cases h
      | ok asked =>
        rw [hread] at h
        cases h
        cases asked with
        | none => exact .null notBlank hread
        | some request => exact .read notBlank request hread

theorem nonEmpty_eq_some_iff {s : Option String} {x : String} :
    nonEmpty s = some x ↔ s = some x ∧ x ≠ "" := by
  simp [nonEmpty, Option.filter_eq_some_iff]

theorem nonEmpty_eq_none_iff {s : Option String} :
    nonEmpty s = none ↔ s = none ∨ s = some "" := by
  cases s with
  | none => simp [nonEmpty]
  | some x => simp [nonEmpty, Option.filter]

namespace Broker

variable {catalog : Catalog} {serviceId planId instanceId bindingId : String} {payload : Bytes}
  {log : List (Exchange interface)} {result : Except Failure Credentials}

/-! ## The courses of a bind -/

/-- The failure of a bind whose plan has no port to deploy to. -/
abbrev noPort : Failure := .portMissing "<none declared by plan>"

/-- What is said when the instance of a plan is asked for and a contract deployed to it. -/
inductive Connected (plan : Plan) (instanceId bindingId : String) (contract : Contract) :
    List (Exchange interface) → Except Failure Credentials → Prop where
  /-- The platform does not find the instance. -/
  | unbound (e : Failure) :
    Connected plan instanceId bindingId contract [⟨.bind instanceId bindingId, .error e⟩] (.error e)
  /-- The plan has no port to deploy to. -/
  | portless (inst : Instance) (noPrimary : plan.primaryPort? = none) :
    Connected plan instanceId bindingId contract [⟨.bind instanceId bindingId, .ok inst⟩]
      (.error noPort)
  /-- The contract is not deployed. -/
  | undeployed (inst : Instance) (port : String) (primary : plan.primaryPort? = some port)
      (e : Failure) :
    Connected plan instanceId bindingId contract
      [⟨.bind instanceId bindingId, .ok inst⟩, ⟨.deploy contract inst port, .error e⟩] (.error e)
  /-- The contract is deployed. -/
  | deployed (inst : Instance) (port : String) (primary : plan.primaryPort? = some port)
      (deployment : Deployment) :
    Connected plan instanceId bindingId contract
      [⟨.bind instanceId bindingId, .ok inst⟩, ⟨.deploy contract inst port, .ok deployment⟩]
      (.ok { inst, deployment })

/-- The plan's first port is looked at only when the platform has answered, and the tool is asked
for only when there is such a port. -/
theorem transcript_connect {plan : Plan} {contract : Contract}
    (h : Transcript (connect plan instanceId bindingId contract).run log result) :
    Connected plan instanceId bindingId contract log result := by
  obtain ⟨bound, rest, rfl, h1⟩ := transcript_question_bind_iff.mp h
  cases bound with
  | error e =>
    rw [ofExcept_error_bind] at h1
    obtain ⟨rfl, rfl⟩ := transcript_throw_iff.mp h1
    exact .unbound e
  | ok inst =>
    rw [ofExcept_ok_bind] at h1
    -- the port is not needed before the platform has answered
    cases hport : plan.primaryPort? with
    | none =>
      simp only [hport] at h1
      obtain ⟨rfl, rfl⟩ := transcript_throw_iff.mp h1
      exact .portless inst hport
    | some port =>
      simp only [hport] at h1
      obtain ⟨deployed, rest, rfl, h2⟩ := transcript_question_bind_iff.mp h1
      cases deployed with
      | error e =>
        rw [ofExcept_error_bind] at h2
        obtain ⟨rfl, rfl⟩ := transcript_throw_iff.mp h2
        exact .undeployed inst port hport e
      | ok deployment =>
        rw [ofExcept_ok_bind] at h2
        obtain ⟨rfl, rfl⟩ := transcript_pure_iff.mp h2
        exact .deployed inst port hport deployment

/-- What is said in a bind, and what it ends with. -/
inductive Course (catalog : Catalog) (serviceId planId instanceId bindingId : String)
    (payload : Bytes) : List (Exchange interface) → Except Failure Credentials → Prop where
  /-- The catalog has no such plan. -/
  | unknown {e : Failure} (lookup : catalog.plan serviceId planId = .error e) :
    Course catalog serviceId planId instanceId bindingId payload [] (.error e)
  /-- The payload cannot be read. -/
  | unreadable {plan : Plan} (lookup : catalog.plan serviceId planId = .ok plan)
      {cause : Json.Fault} (read : BindRequest.ofPayload payload = .error cause) :
    Course catalog serviceId planId instanceId bindingId payload []
      (.error (.invalidBindRequest cause))
  /-- The payload names no contract. -/
  | unnamed {plan : Plan} (lookup : catalog.plan serviceId planId = .ok plan)
      {request : BindRequest} (read : BindRequest.ofPayload payload = .ok request)
      (noUrl : nonEmpty request.contractUrl = none) :
    Course catalog serviceId planId instanceId bindingId payload [] (.error .contractUrlMissing)
  /-- The contract cannot be downloaded. -/
  | undownloaded {plan : Plan} (lookup : catalog.plan serviceId planId = .ok plan)
      {request : BindRequest} (read : BindRequest.ofPayload payload = .ok request)
      {url : String} (named : nonEmpty request.contractUrl = some url) (e : Failure) :
    Course catalog serviceId planId instanceId bindingId payload [⟨.download url, .error e⟩]
      (.error e)
  /-- The contract is downloaded, and removed after its use. -/
  | downloaded {plan : Plan} (lookup : catalog.plan serviceId planId = .ok plan)
      {request : BindRequest} (read : BindRequest.ofPayload payload = .ok request)
      {url : String} (named : nonEmpty request.contractUrl = some url) (path : String)
      {said : List (Exchange interface)} {result : Except Failure Credentials}
      (connected : Connected plan instanceId bindingId
        { url, arguments := request.contractArgs, path } said result) :
    Course catalog serviceId planId instanceId bindingId payload
      (⟨.download url, .ok path⟩ :: said ++ [⟨.discard path, ()⟩]) result

/-- A bind takes one of the courses. -/
theorem transcript_bind
    (h : Transcript (bind catalog serviceId planId instanceId bindingId payload).run log result) :
    Course catalog serviceId planId instanceId bindingId payload log result := by
  unfold bind at h
  -- each stage fails, which ends the course, or gives what the next one needs
  cases lookup : catalog.plan serviceId planId with
  | error e =>
    rw [lookup, ofExcept_error_bind] at h
    obtain ⟨rfl, rfl⟩ := transcript_throw_iff.mp h
    exact .unknown lookup
  | ok plan =>
    rw [lookup, ofExcept_ok_bind] at h
    cases read : BindRequest.ofPayload payload with
    | error cause =>
      rw [read, ofExcept_error_bind] at h
      obtain ⟨rfl, rfl⟩ := transcript_throw_iff.mp h
      exact .unreadable lookup read
    | ok request =>
      rw [read, ofExcept_ok_bind] at h
      cases named : nonEmpty request.contractUrl with
      | none =>
        simp only [named] at h
        obtain ⟨rfl, rfl⟩ := transcript_throw_iff.mp h
        exact .unnamed lookup read named
      | some url =>
        simp only [named] at h
        obtain ⟨downloaded, rest, rfl, h1⟩ := transcript_question_bind_iff.mp h
        cases downloaded with
        | error e =>
          rw [ofExcept_error_bind] at h1
          obtain ⟨rfl, rfl⟩ := transcript_throw_iff.mp h1
          exact .undownloaded lookup read named e
        | ok path =>
          rw [ofExcept_ok_bind] at h1
          obtain ⟨said, discarded, rfl, h2, h3⟩ := transcript_followedBy_iff.mp h1
          rw [transcript_question_iff.mp h3]
          exact .downloaded lookup read named path (transcript_connect h2)

/-! ## The law of all courses -/

/-- Whether an exchange has an effect outside. The removal of a downloaded contract has none: it
ends the use of a file that the bind itself has made. -/
def isEffect : Exchange interface → Bool
  | ⟨.discard _, _⟩ => false
  | _ => true

/-- The questions of a log that have effects. -/
def effects (log : List (Exchange interface)) : List Call := (log.filter isEffect).map (·.1)

/-- The failure that a question is answered with, if it is. -/
def failure? : Exchange interface → Option Failure
  | ⟨.provision _, .error e⟩ | ⟨.deprovision _, .error e⟩ | ⟨.bind _ _, .error e⟩
  | ⟨.download _, .error e⟩ | ⟨.deploy _ _ _, .error e⟩ => some e
  | _ => none

/-- A bind goes through its stages in order and stops at the first one that fails. -/
structure Staged (catalog : Catalog) (serviceId planId instanceId bindingId : String)
    (payload : Bytes) (log : List (Exchange interface)) (result : Except Failure Credentials) :
    Prop where
  /-- The effects are the first ones of three, each at most once. -/
  order : ∃ url contract inst port,
    effects log <+: [.download url, .bind instanceId bindingId, .deploy contract inst port]
  /-- A contract is downloaded exactly if there is a plan and the payload names this contract. -/
  downloads : ∀ url, .download url ∈ effects log ↔
    (∃ plan, catalog.plan serviceId planId = .ok plan) ∧
      ∃ request, BindRequest.Asks payload request ∧
        request.contractUrl = some url ∧ url ≠ ""
  /-- The platform is asked exactly if the contract has been downloaded. -/
  binds : .bind instanceId bindingId ∈ effects log ↔ ∃ url path, ⟨.download url, .ok path⟩ ∈ log
  /-- The downloaded contract is deployed, with the arguments of the payload, to the primary port of
  the plan at the instance that the platform has found, and only then. -/
  deploys : ∀ contract inst port, .deploy contract inst port ∈ effects log ↔
    (∃ plan, catalog.plan serviceId planId = .ok plan ∧ plan.primaryPort? = some port) ∧
      (∃ request, BindRequest.Asks payload request ∧
        contract.arguments = request.contractArgs) ∧
      ⟨.download contract.url, .ok contract.path⟩ ∈ log ∧
      ⟨.bind instanceId bindingId, .ok inst⟩ ∈ log
  /-- Without a plan nothing happens. -/
  unknown : ∀ e, catalog.plan serviceId planId = .error e → log = [] ∧ result = .error e
  /-- With a payload that is neither blank nor readable nothing happens. -/
  unreadable : ∀ plan cause, catalog.plan serviceId planId = .ok plan →
    payload.all BindRequest.isAsciiBlank = false →
    Json.decode (Json.nullable BindRequest.reader) (Utf8.pieces payload) = .error cause →
    log = [] ∧ result = .error (.invalidBindRequest cause)
  /-- With a payload that names no contract nothing happens. -/
  unnamed : ∀ plan request, catalog.plan serviceId planId = .ok plan →
    BindRequest.Asks payload request →
    request.contractUrl = none ∨ request.contractUrl = some "" →
    log = [] ∧ result = .error .contractUrlMissing
  /-- Of the stages with effects the one that fails gives its failure to the whole. -/
  failed : ∀ exchange ∈ log, ∀ e, failure? exchange = some e → result = .error e
  /-- An instance without a port to deploy to is a failure of its own. -/
  portless : ∀ plan inst, catalog.plan serviceId planId = .ok plan →
    ⟨.bind instanceId bindingId, .ok inst⟩ ∈ log → plan.primaryPort? = none →
    result = .error noPort
  /-- A success holds what the platform and the deployment have given. -/
  deployed : ∀ contract inst port deployment,
    ⟨.deploy contract inst port, .ok deployment⟩ ∈ log → result = .ok { inst, deployment }

/-- A plan that is not found ends a binding before anything is asked for. -/
theorem Course.of_unknown
    (h : Course catalog serviceId planId instanceId bindingId payload log result) {e : Failure}
    (lookup : catalog.plan serviceId planId = .error e) : log = [] ∧ result = .error e := by
  cases h with
  | unknown lookup' =>
    rw [lookup] at lookup'
    cases lookup'
    exact ⟨rfl, rfl⟩
  | unreadable lookup' | unnamed lookup' | undownloaded lookup' | downloaded lookup' =>
    rw [lookup] at lookup'
    cases lookup'

/-- So does a payload that cannot be read. -/
theorem Course.of_unreadable
    (h : Course catalog serviceId planId instanceId bindingId payload log result) {plan : Plan}
    (lookup : catalog.plan serviceId planId = .ok plan) {cause : Json.Fault}
    (read : BindRequest.ofPayload payload = .error cause) :
    log = [] ∧ result = .error (.invalidBindRequest cause) := by
  cases h with
  | unknown lookup' =>
    rw [lookup] at lookup'
    cases lookup'
  | unreadable _ read' =>
    rw [read] at read'
    cases read'
    exact ⟨rfl, rfl⟩
  | unnamed _ read' | undownloaded _ read' | downloaded _ read' =>
    rw [read] at read'
    cases read'

/-- And so does a payload that names no contract. -/
theorem Course.of_unnamed
    (h : Course catalog serviceId planId instanceId bindingId payload log result) {plan : Plan}
    (lookup : catalog.plan serviceId planId = .ok plan) {request : BindRequest}
    (read : BindRequest.ofPayload payload = .ok request)
    (noUrl : nonEmpty request.contractUrl = none) :
    log = [] ∧ result = .error .contractUrlMissing := by
  cases h with
  | unknown lookup' =>
    rw [lookup] at lookup'
    cases lookup'
  | unreadable _ read' =>
    rw [read] at read'
    cases read'
  | unnamed => exact ⟨rfl, rfl⟩
  | undownloaded _ read' named | downloaded _ read' named =>
    rw [read] at read'
    cases read'
    rw [noUrl] at named
    cases named

theorem mem_effects {exchange : Exchange interface} (hmem : exchange ∈ log)
    (h : isEffect exchange = true) : exchange.1 ∈ effects log :=
  List.mem_map.mpr ⟨exchange, List.mem_filter.mpr ⟨hmem, h⟩, rfl⟩

@[simp] theorem effects_nil : effects [] = [] := rfl

@[simp] theorem effects_cons (exchange : Exchange interface) (log : List (Exchange interface)) :
    effects (exchange :: log) =
      if isEffect exchange then exchange.1 :: effects log else effects log := by
  unfold effects
  rw [List.filter_cons]
  split <;> rfl

/-- A binding downloads, binds and deploys in this order, each at most once, and may stop after
each. -/
theorem Course.order
    (h : Course catalog serviceId planId instanceId bindingId payload log result) :
    ∃ url contract inst port,
      effects log <+: [.download url, .bind instanceId bindingId, .deploy contract inst port] := by
  cases h with
  | unknown | unreadable | unnamed =>
    exact ⟨"", ⟨"", [], ""⟩, ⟨"", "", ∅⟩, "", List.nil_prefix⟩
  | @undownloaded _ _ _ _ url =>
    exact ⟨url, ⟨"", [], ""⟩, ⟨"", "", ∅⟩, "", by simp [isEffect]⟩
  | @downloaded _ _ request _ url _ path _ _ connected =>
    cases connected with
    | unbound | portless =>
      exact ⟨url, ⟨"", [], ""⟩, ⟨"", "", ∅⟩, "", by simp [isEffect]⟩
    | undeployed inst port | deployed inst port =>
      exact ⟨url, ⟨url, request.contractArgs, path⟩, inst, port, by simp [isEffect]⟩

/-- A contract is downloaded exactly if the plan is known and the payload names it. -/
theorem Course.downloads
    (h : Course catalog serviceId planId instanceId bindingId payload log result) (url : String) :
    .download url ∈ effects log ↔
      (∃ plan, catalog.plan serviceId planId = .ok plan) ∧
        ∃ request, BindRequest.ofPayload payload = .ok request ∧
          request.contractUrl = some url ∧ url ≠ "" := by
  simp only [← nonEmpty_eq_some_iff]
  cases h with
  | unknown lookup => simp [lookup]
  | unreadable lookup read => simp [read]
  | unnamed lookup read noUrl => simp [read, noUrl]
  | undownloaded lookup read named => simp [isEffect, lookup, read, named, eq_comm]
  | downloaded lookup read named path connected =>
    cases connected with
    | unbound | portless | undeployed | deployed => simp [isEffect, lookup, read, named, eq_comm]

/-- The platform is asked once there is a contract, and not otherwise. -/
theorem Course.binds
    (h : Course catalog serviceId planId instanceId bindingId payload log result) :
    .bind instanceId bindingId ∈ effects log ↔ ∃ url path, ⟨.download url, .ok path⟩ ∈ log := by
  cases h with
  | unknown | unreadable | unnamed | undownloaded => simp [isEffect]
  | downloaded _ _ _ _ connected =>
    cases connected with
    | unbound | portless | undeployed | deployed => simp [isEffect]

/-- The tool is asked exactly once the contract is there and the platform has answered, for the
arguments of the payload, at the first port of the plan. -/
theorem Course.deploys
    (h : Course catalog serviceId planId instanceId bindingId payload log result)
    (contract : Contract) (inst : Instance) (port : String) :
    .deploy contract inst port ∈ effects log ↔
      (∃ plan, catalog.plan serviceId planId = .ok plan ∧ plan.primaryPort? = some port) ∧
        (∃ request, BindRequest.ofPayload payload = .ok request ∧
          contract.arguments = request.contractArgs) ∧
        ⟨.download contract.url, .ok contract.path⟩ ∈ log ∧
        ⟨.bind instanceId bindingId, .ok inst⟩ ∈ log := by
  cases h with
  | unknown | unreadable | unnamed | undownloaded => simp [isEffect]
  | downloaded lookup read _ path connected =>
    cases connected with
    | unbound => simp [isEffect]
    | portless _ noPrimary => simp [isEffect, lookup, noPrimary]
    | undeployed inst' port' primary | deployed inst' port' primary =>
      constructor
      · intro hmem
        obtain ⟨rfl, rfl, rfl⟩ : contract = _ ∧ inst = inst' ∧ port = port' := by
          simpa [isEffect] using hmem
        exact ⟨⟨_, lookup, primary⟩, ⟨_, read, rfl⟩, by simp, by simp⟩
      · rintro ⟨⟨plan, lookup', primary'⟩, ⟨request, read', arguments⟩, hdownload, hbind⟩
        rw [lookup] at lookup'
        cases lookup'
        rw [primary] at primary'
        cases primary'
        rw [read] at read'
        cases read'
        obtain ⟨hurl, hpath⟩ : contract.url = _ ∧ contract.path = path := by simpa using hdownload
        obtain rfl : inst = inst' := by simpa using hbind
        simp [isEffect, ← hurl, ← hpath, ← arguments]

/-- Whatever fails is what the binding fails with. -/
theorem Course.failed
    (h : Course catalog serviceId planId instanceId bindingId payload log result) :
    ∀ exchange ∈ log, ∀ e, failure? exchange = some e → result = .error e := by
  cases h with
  | unknown | unreadable | unnamed => simp
  | undownloaded => simp [failure?]
  | downloaded _ _ _ _ connected =>
    cases connected with
    | unbound | portless | undeployed | deployed => simp [failure?]

/-- A plan without ports is found out when the platform has answered. -/
theorem Course.portless
    (h : Course catalog serviceId planId instanceId bindingId payload log result) {plan : Plan}
    {inst : Instance} (lookup : catalog.plan serviceId planId = .ok plan)
    (bound : ⟨.bind instanceId bindingId, .ok inst⟩ ∈ log) (noPrimary : plan.primaryPort? = none) :
    result = .error noPort := by
  cases h with
  | unknown | unreadable | unnamed | undownloaded => simp at bound
  | downloaded lookup' _ _ _ connected =>
    rw [lookup] at lookup'
    cases lookup'
    cases connected with
    | unbound => simp at bound
    | portless => rfl
    | undeployed _ _ primary | deployed _ _ primary =>
      rw [noPrimary] at primary
      cases primary

/-- What the tool deployed is handed on together with the instance. -/
theorem Course.deployed
    (h : Course catalog serviceId planId instanceId bindingId payload log result)
    {contract : Contract} {inst : Instance} {port : String} {deployment : Deployment}
    (success : ⟨.deploy contract inst port, .ok deployment⟩ ∈ log) :
    result = .ok { inst, deployment } := by
  cases h with
  | unknown | unreadable | unnamed | undownloaded => simp at success
  | downloaded _ _ _ _ connected =>
    cases connected with
    | unbound | portless | undeployed => simp at success
    | deployed =>
      obtain ⟨⟨-, rfl, -⟩, rfl⟩ : (contract = _ ∧ inst = _ ∧ port = _) ∧ deployment = _ := by
        simpa using success
      rfl

/-- What a deployment says of the stages before it. -/
theorem Course.of_deploy
    (h : Course catalog serviceId planId instanceId bindingId payload log result) {plan : Plan}
    (lookup : catalog.plan serviceId planId = .ok plan) {port : String}
    (primary : plan.primaryPort? = some port) {contract : Contract} {inst : Instance}
    {deployedTo : String} {deployed : Except Failure Deployment}
    (hmem : ⟨.deploy contract inst deployedTo, deployed⟩ ∈ log) :
    deployedTo = port ∧
      (∃ request, BindRequest.ofPayload payload = .ok request ∧
        contract.arguments = request.contractArgs) ∧
      ⟨.bind instanceId bindingId, .ok inst⟩ ∈ log := by
  obtain ⟨⟨plan', lookup', primary'⟩, read, -, bound⟩ :=
    (h.deploys contract inst deployedTo).mp (mem_effects hmem rfl)
  rw [lookup] at lookup'
  cases lookup'
  rw [primary] at primary'
  cases primary'
  exact ⟨rfl, read, bound⟩

/-- Once the instance is found and there is a port, the deployment settles the result. -/
theorem Course.of_bound
    (h : Course catalog serviceId planId instanceId bindingId payload log result) {plan : Plan}
    (lookup : catalog.plan serviceId planId = .ok plan) {port : String}
    (primary : plan.primaryPort? = some port) {inst : Instance}
    (bound : ⟨.bind instanceId bindingId, .ok inst⟩ ∈ log) :
    (∃ contract deployed, ⟨.deploy contract inst port, deployed⟩ ∈ log ∧
      result = deployed.map fun deployment => { inst, deployment }) ∧
    ∀ other, ⟨.bind instanceId bindingId, .ok other⟩ ∈ log → other = inst := by
  cases h with
  | unknown | unreadable | unnamed | undownloaded => simp at bound
  | downloaded lookup' _ _ _ connected =>
    rw [lookup] at lookup'
    cases lookup'
    cases connected with
    | unbound => simp at bound
    | portless _ noPrimary =>
      rw [primary] at noPrimary
      cases noPrimary
    | undeployed inst' _ primary' e =>
      rw [primary] at primary'
      cases primary'
      obtain rfl : inst = inst' := by simpa using bound
      exact ⟨⟨_, .error e, List.mem_cons_of_mem _ (List.mem_cons_of_mem _ List.mem_cons_self), rfl⟩,
        by simp⟩
    | deployed inst' _ primary' deployment =>
      rw [primary] at primary'
      cases primary'
      obtain rfl : inst = inst' := by simpa using bound
      exact ⟨⟨_, .ok deployment,
          List.mem_cons_of_mem _ (List.mem_cons_of_mem _ List.mem_cons_self), rfl⟩, by simp⟩

/-- Whoever answers, and however it depends on what has been said before, a bind keeps to its
stages. -/
theorem bind_staged (catalog : Catalog) (serviceId planId instanceId bindingId : String)
    (payload : Bytes) (surroundings : Behaviour interface) :
    let run := (bind catalog serviceId planId instanceId bindingId payload).run.hold surroundings
    Staged catalog serviceId planId instanceId bindingId payload run.2 run.1 := by
  intro run
  have h : Course catalog serviceId planId instanceId bindingId payload run.2 run.1 :=
    transcript_bind (transcript_hold surroundings _)
  exact
    { order := h.order
      downloads := by
        simp only [BindRequest.asks_iff]
        exact h.downloads
      binds := h.binds
      deploys := by
        simp only [BindRequest.asks_iff]
        exact h.deploys
      unknown := fun e lookup => h.of_unknown lookup
      unreadable := fun plan cause lookup notBlank unread =>
        h.of_unreadable lookup (BindRequest.ofPayload_eq_error_iff.mpr ⟨notBlank, unread⟩)
      unnamed := fun plan request lookup asks noUrl =>
        h.of_unnamed lookup (BindRequest.asks_iff.mp asks) (nonEmpty_eq_none_iff.mpr noUrl)
      failed := h.failed
      portless := fun plan inst => h.portless
      deployed := fun contract inst port deployment => h.deployed }

end Broker

end ChainBroker
