import ChainBroker.Command.Session
import ChainBroker.Proofs.Bind
import ChainBroker.Proofs.Dialogue
import ChainBroker.Proofs.Loader
import ChainBroker.Proofs.Utf8

/-!
# What the checks of the settings come to

The settings have to satisfy a list of requirements (`Settings.requirements`), and a check goes
through some of them in order: it ends with the failure of the first one that is not satisfied
(`Checked`). Each check of a single setting has its lemma, and `Checked.bind` puts them together, so
that the list of all requirements is what `Settings.validate` checks (`Settings.checked_validate`).

What comes after the checks is told apart into the access to the platform that the settings give
(`Session.access`) and what the broker does with it (`Session.withPlatform_eq`). After successful
checks, access fails only where connecting fails (`Settings.Valid.sufficient`).
-/

namespace ChainBroker

open Dialogue Attempt

/-! ## Requirements -/

/-- What is required of settings, and how they are refused without it. -/
structure Requirement where
  /-- What is required. -/
  holds : Prop
  /-- The failure of settings without it. -/
  failure : Failure

/-- What is found by checking one requirement after the other. -/
inductive Checked : List Requirement → Except Failure Unit → Prop where
  /-- Nothing is left to check. -/
  | done : Checked [] (.ok ())
  /-- The first requirement is satisfied, and the others are checked. -/
  | met {r : Requirement} {rest : List Requirement} {result : Except Failure Unit} (h : r.holds)
      (others : Checked rest result) : Checked (r :: rest) result
  /-- The first requirement is not satisfied, whatever the others are. -/
  | unmet {r : Requirement} {rest : List Requirement} (h : ¬r.holds) :
      Checked (r :: rest) (.error r.failure)

namespace Checked

variable {rs others : List Requirement} {x y : Except Failure Unit}

theorem ok_iff (h : Checked rs x) : x = .ok () ↔ ∀ r ∈ rs, r.holds := by
  induction h with
  | done => simp
  | met h _ ih =>
    rw [ih, List.forall_mem_cons]
    exact (and_iff_right h).symm
  | unmet h =>
    rw [List.forall_mem_cons]
    exact ⟨nofun, fun all => absurd all.1 h⟩

/-- The failure is that of the first requirement that is not satisfied. -/
theorem error_iff (h : Checked rs x) {failure : Failure} :
    x = .error failure ↔
      ∃ before r after, rs = before ++ r :: after ∧ (∀ q ∈ before, q.holds) ∧ ¬r.holds ∧
        failure = r.failure := by
  -- by induction on the checks that were made
  induction h with
  | done => simp
  | @met r rest result h _ ih =>
    rw [ih]
    constructor
    · rintro ⟨before, q, after, rfl, hbefore, hq⟩
      exact ⟨r :: before, q, after, rfl, List.forall_mem_cons.mpr ⟨h, hbefore⟩, hq⟩
    · rintro ⟨before, q, after, split, hbefore, hq⟩
      cases before with
      | nil =>
        cases split
        exact absurd h hq.1
      | cons first before =>
        cases split
        exact ⟨before, q, after, rfl, (List.forall_mem_cons.mp hbefore).2, hq⟩
  | @unmet r rest h =>
    constructor
    · rintro ⟨⟩
      exact ⟨[], r, rest, rfl, by simp, h, rfl⟩
    · rintro ⟨before, q, after, split, hbefore, -, rfl⟩
      cases before with
      | nil =>
        cases split
        rfl
      | cons first before =>
        cases split
        exact absurd (hbefore _ List.mem_cons_self) h

/-- A check that comes after another one is made if this one succeeds. -/
theorem bind (h : Checked rs x) (h' : Checked others y) :
    Checked (rs ++ others) (x >>= fun _ => y) := by
  induction h with
  | done => exact h'
  | met h _ ih => exact .met h ih
  | unmet h => exact .unmet h

end Checked

/-! ## Requirements of single settings -/

namespace Requirement

/-- A path that an operating system can take. -/
def path (field value : String) : List Requirement :=
  [⟨value ≠ "", .settingRejected field value "Path cannot be empty"⟩,
    ⟨'\x00' ∉ value.toList, .settingRejected field value "Path contains null bytes"⟩]

/-- A number that is not too small. -/
def atLeast (minimum : Nat) (field : String) (value : Nat) : Requirement :=
  ⟨minimum ≤ value, .settingRejected field (toString value)
    ("Value must be at least " ++ toString minimum)⟩

/-- A text with a character that is not blank. -/
def notBlank (field value : String) : Requirement :=
  ⟨∃ c ∈ value.toList, Text.isBlank c = false,
    .settingRejected field value "Value cannot be empty or whitespace-only"⟩

/-- A setting that is there. -/
def present {α : Type} (field : String) (setting : Option α) : Requirement :=
  ⟨setting.isSome, .settingMissing field⟩

end Requirement

namespace Check

/-- A path is checked for being empty and for its characters, in this order. -/
theorem checked_path (field value : String) :
    Checked (Requirement.path field value) (path field value) := by
  unfold path
  by_cases empty : value = ""
  · rw [if_pos empty]
    exact .unmet (not_not.mpr empty)
  · rw [if_neg empty]
    refine .met empty ?_
    by_cases null : '\x00' ∈ value.toList
    · rw [if_pos null]
      exact .unmet (not_not.mpr null)
    · rw [if_neg null]
      exact .met null .done

theorem checked_atLeast (minimum : Nat) (field : String) (value : Nat) :
    Checked [Requirement.atLeast minimum field value] (atLeast minimum field value) := by
  unfold atLeast
  by_cases small : value < minimum
  · rw [if_pos small]
    exact .unmet (Nat.not_le.mpr small)
  · rw [if_neg small]
    exact .met (Nat.not_lt.mp small) .done

theorem checked_notBlank (field value : String) :
    Checked [Requirement.notBlank field value] (notBlank field value) := by
  unfold notBlank
  cases blank : Text.isBlankText value with
  | true =>
    refine .unmet fun h => ?_
    cases blank.symm.trans (isBlankText_eq_false_iff.mpr h)
  | false => exact .met (isBlankText_eq_false_iff.mp blank) .done

/-- What is required of a setting that may be left out is required only where it is there. -/
theorem checked_present {α : Type} (field : String) (setting : Option α)
    {requirements : α → List Requirement} {check : α → Except Failure Unit}
    (checked : ∀ a, Checked (requirements a) (check a)) :
    Checked (.present field setting :: setting.toList.flatMap requirements)
      (present field setting >>= check) := by
  cases setting with
  | none => exact .unmet nofun
  | some a =>
    rw [Option.toList_some, List.flatMap_singleton]
    exact .met rfl (checked a)

end Check

/-! ## Requirements of the settings -/

namespace Settings

/-- What is required of the section of the selected platform. -/
def platformRequirements (s : Settings) : List Requirement :=
  match s.platform with
  | .docker =>
    .present "docker" s.docker :: s.docker.toList.flatMap fun docker =>
      [.notBlank "docker.external_address" docker.externalAddress]
  | .kubernetes =>
    .present "kubernetes" s.kubernetes :: s.kubernetes.toList.flatMap fun kubernetes =>
      [.notBlank "kubernetes.host" kubernetes.host,
        .notBlank "kubernetes.namespace" kubernetes.effectiveNamespace]

/-- What is required of settings, in the order in which it is checked. -/
def requirements (s : Settings) : List Requirement :=
  Requirement.path "deployer.script" s.tool.script ++
    .notBlank "deployer.program" s.tool.effectiveProgram ::
    .atLeast 1 "deployer.timeout_seconds" s.tool.effectiveTimeoutSeconds ::
    s.platformRequirements

/-- Of the platforms only the selected one is checked. -/
theorem checked_validatePlatform (s : Settings) :
    Checked s.platformRequirements s.validatePlatform := by
  unfold platformRequirements validatePlatform
  cases s.platform with
  | docker => exact Check.checked_present _ _ fun _ => Check.checked_notBlank _ _
  | kubernetes =>
    exact Check.checked_present _ _ fun _ =>
      (Check.checked_notBlank _ _).bind (Check.checked_notBlank _ _)

/-- All requirements are checked, in their order. -/
theorem checked_validate (s : Settings) : Checked s.requirements s.validate :=
  (Check.checked_path _ _).bind <| (Check.checked_notBlank _ _).bind <|
    (Check.checked_atLeast _ _ _).bind s.checked_validatePlatform

/-- Settings with which the broker can work. -/
structure Valid (s : Settings) : Prop where
  /-- There is a script. -/
  script : s.tool.script ≠ ""
  /-- An operating system can take its path. -/
  path : '\x00' ∉ s.tool.script.toList
  /-- There is a program. -/
  program : ∃ c ∈ s.tool.effectiveProgram.toList, Text.isBlank c = false
  /-- The tool has some time. -/
  timeout : 1 ≤ s.tool.effectiveTimeoutSeconds
  /-- If the Docker daemon is selected, it is told where users reach instances. -/
  docker : s.platform = .docker →
    ∃ docker, s.docker = some docker ∧ ∃ c ∈ docker.externalAddress.toList, Text.isBlank c = false
  /-- If the cluster is selected, it is told where users reach instances, and in which namespace
  these are. -/
  kubernetes : s.platform = .kubernetes →
    ∃ kubernetes, s.kubernetes = some kubernetes ∧
      (∃ c ∈ kubernetes.host.toList, Text.isBlank c = false) ∧
      ∃ c ∈ kubernetes.effectiveNamespace.toList, Text.isBlank c = false

/-- What is required of the platform is that its section is there and its addresses are not
blank. -/
theorem forall_platformRequirements_iff {s : Settings} :
    (∀ r ∈ s.platformRequirements, r.holds) ↔
      (s.platform = .docker → ∃ docker, s.docker = some docker ∧
        ∃ c ∈ docker.externalAddress.toList, Text.isBlank c = false) ∧
      (s.platform = .kubernetes → ∃ kubernetes, s.kubernetes = some kubernetes ∧
        (∃ c ∈ kubernetes.host.toList, Text.isBlank c = false) ∧
        ∃ c ∈ kubernetes.effectiveNamespace.toList, Text.isBlank c = false) := by
  unfold platformRequirements
  cases s.platform with
  | docker => cases s.docker <;> simp [Requirement.present, Requirement.notBlank]
  | kubernetes => cases s.kubernetes <;> simp [Requirement.present, Requirement.notBlank]

/-- Settings pass if and only if they are valid. -/
theorem validate_eq_ok_iff {s : Settings} : s.validate = .ok () ↔ s.Valid := by
  rw [s.checked_validate.ok_iff]
  unfold requirements
  rw [List.forall_mem_append, List.forall_mem_cons, List.forall_mem_cons,
    forall_platformRequirements_iff]
  unfold Requirement.path
  rw [List.forall_mem_cons, List.forall_mem_singleton]
  constructor
  · rintro ⟨⟨script, path⟩, program, timeout, docker, kubernetes⟩
    exact ⟨script, path, program, timeout, docker, kubernetes⟩
  · intro h
    exact ⟨⟨h.script, h.path⟩, h.program, h.timeout, h.docker, h.kubernetes⟩

/-- The settings are checked alike if the section of the selected platform and those of the tool are
the same. -/
theorem validate_congr {s s' : Settings} (platform : s.platform = s'.platform)
    (tool : s.tool = s'.tool) (docker : s.platform = .docker → s.docker = s'.docker)
    (kubernetes : s.platform = .kubernetes → s.kubernetes = s'.kubernetes) :
    s.validate = s'.validate := by
  have hplatform : s.validatePlatform = s'.validatePlatform := by
    unfold validatePlatform requireDocker requireKubernetes
    rw [← platform]
    cases h : s.platform with
    | docker => rw [docker h]
    | kubernetes => rw [kubernetes h]
  unfold validate
  rw [tool, hplatform]

end Settings

/-! ## Access to the platform -/

/-- There is always an internal address. -/
theorem DockerSettings.effectiveInternalAddress_ne_empty (s : DockerSettings) (env : Environment) :
    s.effectiveInternalAddress env ≠ "" := by
  unfold effectiveInternalAddress
  cases hset : nonEmpty s.internalAddress with
  | some address => exact (nonEmpty_eq_some_iff.mp hset).2
  | none =>
    cases hvariable : nonEmpty (env "DOCKER_SERVER") with
    | some address => exact (nonEmpty_eq_some_iff.mp hvariable).2
    | none => decide

namespace Session

variable {env : Environment} {s : Settings}

/-- What those who work with a platform are told about it. -/
inductive Access where
  /-- The addresses under which the broker and under which users reach instances of the Docker
  daemon. -/
  | docker (internalAddress externalAddress : String)
  /-- The namespace of the objects, and the host under which users reach instances of the cluster.
  -/
  | kubernetes (inNamespace host : String)

/-- The access that the settings give, if the section of the selected platform is there. -/
def access? (env : Environment) (s : Settings) : Option Access :=
  match s.platform with
  | .docker =>
    s.docker.map fun docker =>
      .docker (docker.effectiveInternalAddress env) docker.externalAddress
  | .kubernetes =>
    s.kubernetes.map fun kubernetes =>
      .kubernetes kubernetes.effectiveNamespace kubernetes.host

/-- Gets access to the selected platform. -/
def access (env : Environment) (s : Settings) : Attempt interface Failure Access := do
  let access ← Attempt.ofExcept id (Check.present s.platform.name (access? env s))
  Attempt.ofExcept id (← ask (.connect s.platform))
  return access

/-- Lets the broker work with a platform to which there is access. -/
def workWith (tool : DeployTool) (work : Attempt Broker.interface Failure String) :
    Access → Attempt interface Failure String
  | .docker internalAddress externalAddress =>
    let setup : Broker.Setup Docker.interface :=
      { platform := Docker.platform internalAddress externalAddress, tool }
    (setup.run work).interpret (relay fun call => Dialogue.question (I := interface) (.docker call))
  | .kubernetes inNamespace host =>
    let setup : Broker.Setup Kubernetes.interface := { platform := Kubernetes.platform host, tool }
    (setup.run work).interpret <| relay fun call =>
      Dialogue.question (I := interface) (.kubernetes inNamespace call)

theorem access_of_some {a : Access} (h : access? env s = some a) :
    access env s = ask (.connect s.platform) >>= fun connected =>
      Attempt.ofExcept id (connected.map fun _ => a) := by
  unfold access
  rw [h, Check.present, ofExcept_ok_bind]
  refine congrArg (ask (.connect s.platform) >>= ·) (funext fun connected => ?_)
  cases connected <;> rfl

theorem access_bind_of_some {α : Type} {a : Access} (h : access? env s = some a)
    (f : Access → Attempt interface Failure α) :
    access env s >>= f = ask (.connect s.platform) >>= fun connected =>
      Attempt.ofExcept id connected >>= fun _ => f a := by
  rw [access_of_some h, LawfulMonad.bind_assoc]
  refine congrArg (ask (.connect s.platform) >>= ·) (funext fun connected => ?_)
  cases connected <;> rfl

theorem access_bind_of_none {α : Type} (h : access? env s = none)
    (f : Access → Attempt interface Failure α) :
    access env s >>= f = throw (.settingMissing s.platform.name) := by
  unfold access
  rw [h]
  rfl

/-- The broker gets access to the platform, and then it works with it. -/
theorem withPlatform_eq (env : Environment) (s : Settings)
    (work : Attempt Broker.interface Failure String) :
    withPlatform env s work = access env s >>= workWith (DeployTool.ofSettings s.tool) work := by
  -- both platforms are reached in one way, if their section is there
  cases hkind : s.platform with
  | docker =>
    have hwith : withPlatform env s work = withDocker env s work := by rw [withPlatform, hkind]
    have haccess : access? env s = s.docker.map fun docker =>
        .docker (docker.effectiveInternalAddress env) docker.externalAddress := by
      rw [access?, hkind]
    rw [hwith, withDocker, Settings.requireDocker]
    cases hdocker : s.docker with
    | none =>
      rw [access_bind_of_none (haccess.trans (congrArg _ hdocker)), hkind]
      rfl
    | some docker =>
      rw [access_bind_of_some (haccess.trans (congrArg _ hdocker)), hkind]
      rfl
  | kubernetes =>
    have hwith : withPlatform env s work = withKubernetes s work := by rw [withPlatform, hkind]
    have haccess : access? env s = s.kubernetes.map fun kubernetes =>
        .kubernetes kubernetes.effectiveNamespace kubernetes.host := by
      rw [access?, hkind]
    rw [hwith, withKubernetes, Settings.requireKubernetes]
    cases hkubernetes : s.kubernetes with
    | none =>
      rw [access_bind_of_none (haccess.trans (congrArg _ hkubernetes)), hkind]
      rfl
    | some kubernetes =>
      rw [access_bind_of_some (haccess.trans (congrArg _ hkubernetes)), hkind]
      rfl

/-- Access is had by connecting, and fails if this does. -/
theorem transcript_access_iff {a : Access} (h : access? env s = some a)
    {log : List (Exchange interface)} {r : Except Failure Access} :
    Transcript (access env s).run log r ↔
      ∃ connected, log = [⟨.connect s.platform, connected⟩] ∧ r = connected.map fun _ => a := by
  rw [access_of_some h, ask, transcript_question_bind_iff]
  constructor
  · rintro ⟨connected, rest, rfl, said⟩
    obtain ⟨rfl, rfl⟩ := transcript_ofExcept_iff.mp said
    exact ⟨connected, rfl, mapError_id _⟩
  · rintro ⟨connected, rfl, rfl⟩
    exact ⟨connected, [], rfl, transcript_ofExcept_iff.mpr ⟨rfl, (mapError_id _).symm⟩⟩

end Session

namespace Settings

/-- What comes after the checks can rely on the settings. -/
structure Sufficient (env : Environment) (s : Settings) : Prop where
  /-- Access to the platform fails as connecting to it does, and in no other way. -/
  connects : ∀ log r, Transcript (Session.access env s).run log r →
    ∃ connected, log = [⟨.connect s.platform, connected⟩] ∧
      ∀ failure, r = .error failure ↔ connected = .error failure
  /-- No setting is missing for the access, unless connecting itself says so. -/
  complete : ∀ log r, Transcript (Session.access env s).run log r →
    (∀ field, ⟨.connect s.platform, .error (.settingMissing field)⟩ ∉ log) →
      ∀ field, r ≠ .error (.settingMissing field)
  /-- The broker has an address under which it reaches instances of the Docker daemon. -/
  addressed : s.platform = .docker → ∀ log access,
    Transcript (Session.access env s).run log (.ok access) →
      ∃ internalAddress externalAddress,
        access = .docker internalAddress externalAddress ∧ internalAddress ≠ ""
  /-- The deploy tool has a program. -/
  program : ∃ c ∈ (DeployTool.ofSettings s.tool).program.toList, Text.isBlank c = false
  /-- The deploy tool has at least a second. -/
  timeout : 1000 ≤ (DeployTool.ofSettings s.tool).timeout

variable {env : Environment} {s : Settings}

/-- Valid settings say how the platform is reached. -/
theorem Valid.exists_access (h : s.Valid) (env : Environment) :
    ∃ a, Session.access? env s = some a ∧
      (s.platform = .docker → ∃ internalAddress externalAddress,
        a = .docker internalAddress externalAddress ∧ internalAddress ≠ "") := by
  unfold Session.access?
  cases hkind : s.platform with
  | docker =>
    obtain ⟨docker, hdocker, -⟩ := h.docker hkind
    rw [hdocker]
    exact ⟨_, rfl, fun _ => ⟨_, _, rfl, docker.effectiveInternalAddress_ne_empty env⟩⟩
  | kubernetes =>
    obtain ⟨kubernetes, hkubernetes, -⟩ := h.kubernetes hkind
    rw [hkubernetes]
    exact ⟨_, rfl, nofun⟩

/-- With valid settings nothing is missing later on. -/
theorem Valid.sufficient (h : s.Valid) (env : Environment) : s.Sufficient env := by
  obtain ⟨a, ha, addressed⟩ := h.exists_access env
  have connects : ∀ log r, Transcript (Session.access env s).run log r →
      ∃ connected, log = [⟨.connect s.platform, connected⟩] ∧
        ∀ failure, r = .error failure ↔ connected = .error failure := by
    intro log r said
    obtain ⟨connected, rfl, rfl⟩ := (Session.transcript_access_iff ha).mp said
    refine ⟨connected, rfl, fun failure => ?_⟩
    cases connected <;> simp [Except.map]
  refine ⟨connects, ?_, ?_, h.program, Nat.mul_le_mul_right 1000 h.timeout⟩
  · intro log r said untold field missing
    obtain ⟨connected, rfl, hr⟩ := connects log r said
    obtain rfl := (hr _).mp missing
    exact untold field List.mem_cons_self
  · intro hkind log access said
    obtain ⟨connected, -, hr⟩ := (Session.transcript_access_iff ha).mp said
    cases connected with
    | error e => cases hr
    | ok =>
      cases hr
      exact addressed hkind

/-- **The checks of the settings are exact, and they are enough.** Settings are accepted exactly if
they are valid, and otherwise refused for the first requirement in the list that they do not
satisfy. The script may be known only as a text that has lost some bytes of its path; what is
required of the path can be told from it. The section of the platform that is not selected is of no
account. What comes after the checks can rely on settings that are accepted. -/
theorem validate_exact (env : Environment) (s : Settings) :
    (s.validate = .ok () ↔ s.Valid) ∧
    (∀ failure, s.validate = .error failure ↔
      ∃ before r after, s.requirements = before ++ r :: after ∧ (∀ q ∈ before, q.holds) ∧
        ¬r.holds ∧ failure = r.failure) ∧
    (∀ path, s.tool.script = Utf8.decodeLossy path →
      (s.tool.script ≠ "" ↔ path ≠ []) ∧ ('\x00' ∉ s.tool.script.toList ↔ 0 ∉ path)) ∧
    (s.platform = .docker → ∀ other, { s with kubernetes := other }.validate = s.validate) ∧
    (s.platform = .kubernetes → ∀ other, { s with docker := other }.validate = s.validate) ∧
    (∀ work, Session.withPlatform env s work =
      Session.access env s >>= Session.workWith (DeployTool.ofSettings s.tool) work) ∧
    (s.validate = .ok () → s.Sufficient env) := by
  refine ⟨validate_eq_ok_iff, fun _ => s.checked_validate.error_iff, ?_, ?_, ?_,
    Session.withPlatform_eq env s, fun h => (validate_eq_ok_iff.mp h).sufficient env⟩
  · intro path hpath
    rw [hpath]
    exact ⟨not_congr Utf8.decodeLossy_eq_empty_iff, not_congr Utf8.null_mem_decodeLossy_iff⟩
  · intro hkind other
    exact validate_congr rfl rfl (fun _ => rfl) fun h => nomatch hkind.symm.trans h
  · intro hkind other
    exact validate_congr rfl rfl (fun h => nomatch hkind.symm.trans h) fun _ => rfl

/-- Settings that leave out what can be left out. -/
def plain : Settings where
  platform := .docker
  docker := some { internalAddress := none, externalAddress := "12.34.56.78" }
  kubernetes := none
  tool := { program := none, script := "pusher.js", timeoutSeconds := none }

/-- Settings with a program and a time that are both refused. -/
def slips : Settings :=
  { plain with tool := { program := some " ", script := "pusher.js", timeoutSeconds := some 0 } }

/-- With defaults, the settings are enough, also where the environment has an empty address and the
section of the cluster would be refused. Of two faults, the first one is reported. -/
theorem plain_sufficient :
    (plain.Valid ∧ plain.Sufficient fun _ => some "") ∧
      { plain with kubernetes := some ⟨"", none⟩ }.validate = .ok () ∧
      slips.validate = .error
        (.settingRejected "deployer.program" " " "Value cannot be empty or whitespace-only") := by
  obtain ⟨exact, -, -, unselected, -, -, sufficient⟩ := validate_exact (fun _ => some "") plain
  have valid : plain.Valid :=
    { script := by decide
      path := by decide
      program := ⟨'n', by decide, by decide⟩
      timeout := by decide
      docker := fun _ => ⟨_, rfl, '1', by decide, by decide⟩
      kubernetes := nofun }
  have accepted : plain.validate = .ok () := exact.mpr valid
  refine ⟨⟨valid, sufficient accepted⟩, (unselected rfl _).trans accepted, ?_⟩
  obtain ⟨-, first, -⟩ := validate_exact (fun _ => none) slips
  refine (first _).mpr ⟨Requirement.path "deployer.script" "pusher.js",
    .notBlank "deployer.program" " ", _, rfl, ?_, ?_, rfl⟩
  · unfold Requirement.path
    rw [List.forall_mem_cons, List.forall_mem_singleton]
    exact ⟨by decide, by decide⟩
  · rintro ⟨c, hc, h⟩
    obtain rfl : c = ' ' := List.mem_singleton.mp hc
    exact absurd h (by decide)

end Settings

end ChainBroker
