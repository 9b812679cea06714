import ChainBroker.Proofs.Pairing

/-!
# Names that a cluster allows

The objects of an instance are created under names that are made of its id: the container of the pod
has the id itself, the service the id behind `svc-`. A cluster allows labels of at most 63
characters, and for services only those that start with a letter. The start keeps the name of the
service a label that starts with a letter; but it makes it longer, so of the labels only those with
at most 59 characters lead to a name that is allowed (`Kubernetes.isServiceName_serviceName_iff`).

`Kubernetes.checking` is a cluster that looks at names. It treats instances with short ids as a
reliable cluster does (`Kubernetes.hold_checking_of_alike`), and of an instance with a longer one it
creates the pod and not the service (`Kubernetes.hold_checking_provision_of_long`).
-/

namespace ChainBroker

open Dialogue Attempt

namespace Kubernetes

/-! ## Names -/

/-- A label: up to 63 lower-case letters, digits and hyphens, with no hyphen at either end. -/
structure IsLabel (s : String) : Prop where
  /-- There is something. -/
  length_pos : 0 < s.length
  /-- It is not too long. -/
  length_le : s.length ≤ 63
  /-- It consists of letters, digits and hyphens. -/
  chars : ∀ c ∈ s.toList, c.isLower ∨ c.isDigit ∨ c = '-'
  /-- It starts with a letter or a digit. -/
  first : ∀ c ∈ s.toList.head?, c.isLower ∨ c.isDigit
  /-- It ends with a letter or a digit. -/
  last : ∀ c ∈ s.toList.getLast?, c.isLower ∨ c.isDigit

/-- A label that may be the name of a service. -/
structure IsServiceName (s : String) : Prop extends IsLabel s where
  /-- It starts with a letter. -/
  letter : ∀ c ∈ s.toList.head?, c.isLower

instance (s : String) : Decidable (IsLabel s) :=
  decidable_of_iff
    (0 < s.length ∧ s.length ≤ 63 ∧
      (s.toList.all fun c => c.isLower ∨ c.isDigit ∨ c = '-') ∧
      (s.toList.head?.all fun c => c.isLower ∨ c.isDigit) ∧
      s.toList.getLast?.all fun c => c.isLower ∨ c.isDigit) <| by
    simp only [List.all_eq_true, Option.all_eq_true, decide_eq_true_eq]
    exact ⟨fun ⟨h1, h2, h3, h4, h5⟩ => ⟨h1, h2, h3, h4, h5⟩, fun ⟨h1, h2, h3, h4, h5⟩ =>
      ⟨h1, h2, h3, h4, h5⟩⟩

instance (s : String) : Decidable (IsServiceName s) :=
  decidable_of_iff (IsLabel s ∧ s.toList.head?.all Char.isLower) <| by
    rw [Option.all_eq_true]
    exact ⟨fun ⟨h, letter⟩ => ⟨h, letter⟩, fun ⟨h, letter⟩ => ⟨h, letter⟩⟩

variable {i : String}

theorem length_serviceName (i : String) : (serviceName i).length = i.length + 4 := by
  rw [serviceName, String.length_append, Nat.add_comm]
  rfl

/-- The start of the name is well chosen, but it takes four of the characters. -/
theorem isServiceName_serviceName_iff (label : IsLabel i) :
    IsServiceName (serviceName i) ↔ i.length ≤ 59 := by
  have hchars : (serviceName i).toList = 's' :: 'v' :: 'c' :: '-' :: i.toList := by
    simp [serviceName]
  constructor
  · intro h
    have hlength := h.length_le
    rw [length_serviceName] at hlength
    omega
  · intro short
    have hlength := length_serviceName i
    refine ⟨⟨by omega, by omega, ?_, ?_, ?_⟩, ?_⟩
    · rw [hchars]
      intro c hc
      simp only [List.mem_cons] at hc
      rcases hc with rfl | rfl | rfl | rfl | hc
      · exact .inl rfl
      · exact .inl rfl
      · exact .inl rfl
      · exact .inr (.inr rfl)
      · exact label.chars c hc
    · rw [hchars]
      rintro c ⟨⟩
      exact .inl rfl
    · -- the name ends as the id does, since the id is not empty
      have hne : i.toList ≠ [] := by
        rw [← List.length_pos_iff, String.length_toList]
        exact label.length_pos
      have hend : (serviceName i).toList.getLast? = i.toList.getLast? := by
        rw [serviceName, String.toList_append, List.getLast?_append_of_ne_nil _ hne]
      rw [hend]
      exact label.last
    · rw [hchars]
      rintro c ⟨⟩
      rfl

/-! ## Names in questions -/

/-- The name of the service that a question is about. -/
def Call.service? : Call → Option String
  | .createService service => some service.name
  | .deleteService name | .getService name => some name
  | .createPod _ | .deletePod _ => none

/-- Whatever is done for an instance, its service is asked about under one name. -/
theorem only_serviceName (host i : String) (task : Platform.Task) :
    (task.on (platform host) i).Only
      fun call : Call => ∀ name ∈ call.service?, name = serviceName i := by
  refine (only_concerns host i task).mono fun call concerns => ?_
  cases concerns with
  | makes h =>
    cases h with
    | createPod => exact nofun
    | createService =>
      rintro name ⟨⟩
      rfl
  | deletePod => exact nofun
  | deleteService | getService =>
    rintro name ⟨⟩
    rfl

/-! ## A cluster that looks at names -/

/-- The answer where a name is not allowed. -/
def nameRefused (name : String) : Fault :=
  .refused ⟨"Failure", "metadata.name: Invalid value: \"" ++ name ++ "\"", "Invalid", 422⟩

/-- What a cluster answers that creates objects under names that are allowed, and no others. -/
def serveAllowed (choice : Choice) : (call : Call) → Objects → call.Answer × Objects
  | .createPod pod, s =>
    if IsLabel pod.container then serve choice (.createPod pod) s
    else (.error (nameRefused pod.container), s)
  | .createService service, s =>
    if IsServiceName service.name then serve choice (.createService service) s
    else (.error (nameRefused service.name), s)
  | .deletePod name, s => serve choice (.deletePod name) s
  | .deleteService name, s => serve choice (.deleteService name) s
  | .getService name, s => serve choice (.getService name) s

/-- A cluster that looks at names, and to which nothing else happens. -/
abbrev checking : World interface where
  State := Objects
  Chance := Choice
  react := serveAllowed

variable {s : Objects} {luck : Nat → Choice}

/-- The name of the question is of no account. -/
def Alike (call : Call) : Prop := ∀ choice s, serveAllowed choice call s = serve choice call s

theorem hold_checking_of_alike {α : Type} {d : Dialogue interface α} (h : d.Only Alike)
    (luck : Nat → Choice) (s : Objects) : checking.hold d luck s = reliable.hold d luck s :=
  World.hold_congr (fun _ alike => alike) h luck s

/-- Names are looked at where objects are created, and those of short ids are allowed. -/
theorem only_alike {host : String} {task : Platform.Task}
    (short : ∀ image ports, task = .provision image ports → IsLabel i ∧ i.length ≤ 59) :
    (task.on (platform host) i).Only Alike := by
  cases task with
  | provision image ports =>
    obtain ⟨label, hlength⟩ := short image ports rfl
    refine (only_provision _).mono fun call makes => ?_
    cases makes with
    | createPod => exact fun choice s => if_pos label
    | createService =>
      exact fun choice s => if_pos ((isServiceName_serviceName_iff label).mpr hlength)
  | deprovision =>
    exact only_question_bind (fun _ _ => rfl) fun _ =>
      only_question_bind (fun _ _ => rfl) fun _ => trivial
  | bind bindingId =>
    exact only_question_bind (fun _ _ => rfl) fun shown => only_bind only_ofExcept fun _ => trivial

/-- A pod whose name is not allowed is refused, and no service is asked for. -/
theorem hold_checking_provision_of_not_label {w : Workload} (refused : ¬IsLabel w.name) :
    (checking.hold (provision w).run luck s).2 = s := by
  unfold provision ask
  cases parsed : w.parsedPorts with
  | error e => rfl
  | ok ports =>
    have hpod : serveAllowed (luck 0) (.createPod (.ofPorts w.name w.image ports)) s =
        (.error (nameRefused w.name), s) := if_neg refused
    rw [ofExcept_ok_bind, World.hold_question_bind hpod]
    rfl

/-- A pod whose name is allowed is left without a service if the name of this is too long. -/
theorem hold_checking_provision_of_long {w : Workload} {ports : List Port}
    (parsed : w.parsedPorts = .ok ports) (label : IsLabel w.name) (long : ¬w.name.length ≤ 59)
    (free : s.pods w.name = none) :
    checking.hold (provision w).run luck s =
      (.error (.kubernetes (nameRefused (serviceName w.name))),
        { s with
          pods := Function.update s.pods w.name (some (.ofPorts w.name w.image ports)) }) := by
  have hpod : serveAllowed (luck 0) (.createPod (.ofPorts w.name w.image ports)) s = _ :=
    (if_pos label).trans (serve_createPod_of_none (luck 0) free)
  have hservice : ∀ s, serveAllowed (luck 1) (.createService (.ofPorts w.name ports)) s =
      (.error (nameRefused (serviceName w.name)), s) := fun s =>
    if_neg fun allowed => long ((isServiceName_serviceName_iff label).mp allowed)
  unfold provision ask
  rw [parsed, ofExcept_ok_bind, World.hold_question_bind hpod, ofExcept_ok_bind,
    World.hold_question_bind (hservice _)]
  rfl

/-- Where both names are free, the objects of an instance are there after its provision, except for
a service whose name is too long. -/
theorem hold_checking_provision_of_free {w : Workload} {ports : List Port}
    (parsed : w.parsedPorts = .ok ports) (label : IsLabel w.name) (free : s.pods w.name = none)
    (serviceFree : s.services (serviceName w.name) = none) :
    let made := checking.hold (provision w).run luck s
    (made.2.pods w.name).isSome ∧
      ((made.2.services (serviceName w.name)).isSome ↔ w.name.length ≤ 59) ∧
      (made.1 = .ok () ↔ w.name.length ≤ 59) := by
  intro made
  by_cases short : w.name.length ≤ 59
  · have alike : (Platform.Task.on (platform "") w.name (.provision w.image w.ports)).Only Alike :=
      only_alike fun _ _ _ => ⟨label, short⟩
    have hmade : made = reliable.hold (provision w).run luck s :=
      hold_checking_of_alike alike luck s
    have provided := hold_provision w luck s
    rw [← hmade] at provided
    generalize made = result at provided ⊢
    cases provided with
    | badPort parsed' => cases parsed.symm.trans parsed'
    | podTaken _ found => cases free.symm.trans found
    | serviceTaken _ _ found => cases serviceFree.symm.trans found
    | made => simp [short]
  · have hmade : made = _ := hold_checking_provision_of_long parsed label short free
    rw [hmade]
    simp [short, serviceFree]

/-! ## Pods and services -/

theorem Paired.request_checking (host : String) (r : Platform.Request)
    (short : IsLabel r.instanceId → r.instanceId.length ≤ 59) (luck : Nat → Choice)
    (h : Paired s) : Paired (checking.hold (r.on (platform host)) luck s).2 := by
  obtain ⟨instanceId, task⟩ := r
  by_cases refused : ∃ image ports, task = .provision image ports ∧ ¬IsLabel instanceId
  · obtain ⟨image, ports, rfl, refused⟩ := refused
    have hkept : (checking.hold (Kubernetes.provision ⟨instanceId, image, ports⟩).run luck s).2 = s :=
      hold_checking_provision_of_not_label refused
    show Paired (checking.hold (Kubernetes.provision ⟨instanceId, image, ports⟩).run luck s).2
    rwa [hkept]
  · have alike : (Platform.Request.on (platform host) ⟨instanceId, task⟩).Only Alike := by
      refine only_alike fun image ports htask => ?_
      have label : IsLabel instanceId :=
        not_not.mp fun refused' => refused ⟨image, ports, htask, refused'⟩
      exact ⟨label, short label⟩
    rw [hold_checking_of_alike alike]
    exact h.request host _ luck

/-- As long as no id is a label of more than 59 characters, there is a pod exactly if there is its
service. -/
theorem paired_after_checking (host : String) {history : History checking}
    (short : ∀ call ∈ history, IsLabel call.1.instanceId → call.1.instanceId.length ≤ 59) :
    Paired (checking.after (platform host) history .empty) := by
  refine World.after_keeps (fun call hcall s h => ?_) (fun i => Iff.rfl)
  exact Paired.request_checking host call.1 (short call hcall) call.2 h

/-- **The name of a service is allowed exactly if the id has at most 59 characters**, where the id
is a label. All that is asked for an instance is asked about the service of this name. So a cluster
that takes the pod takes the service too for such ids only; with longer ids the pod is left without
one. As long as there are no longer ids, pods and services come in pairs after any history. -/
theorem services_named (host : String) :
    (∀ i, IsLabel i →
      (IsServiceName (serviceName i) ↔ i.length ≤ 59) ∧
      (∀ task log r, Transcript (Platform.Task.on (platform host) i task) log r →
        ∀ x ∈ log, ∀ name ∈ x.1.service?, name = serviceName i) ∧
      ∀ image specs, (∃ ports, Port.parseAll specs = .ok ports) → ∀ (s : Objects) luck,
        s.pods i = none → s.services (serviceName i) = none →
        let made := checking.hold (provision ⟨i, image, specs⟩).run luck s
        (made.2.pods i).isSome ∧ ((made.2.services (serviceName i)).isSome ↔ i.length ≤ 59) ∧
          (made.1 = .ok () ↔ i.length ≤ 59)) ∧
    ∀ history : History checking,
      (∀ call ∈ history, IsLabel call.1.instanceId → call.1.instanceId.length ≤ 59) →
      ∀ i, ((checking.after (platform host) history .empty).pods i).isSome ↔
        ((checking.after (platform host) history .empty).services (serviceName i)).isSome := by
  refine ⟨fun i label => ⟨isServiceName_serviceName_iff label, ?_, ?_⟩, fun history short => ?_⟩
  · intro task log r said
    exact (only_serviceName host i task).of_transcript said
  · rintro image specs ⟨ports, hports⟩ s luck free serviceFree
    exact hold_checking_provision_of_free (w := ⟨i, image, specs⟩)
      (Workload.parsedPorts_eq_ok_iff.mpr hports) label free serviceFree
  · exact paired_after_checking host short

/-- An id of so many characters. -/
def idOfLength (n : Nat) : String := String.ofList (List.replicate n 'a')

theorem length_idOfLength (n : Nat) : (idOfLength n).length = n := by
  rw [idOfLength, String.length_ofList, List.length_replicate]

theorem isLabel_idOfLength {n : Nat} (h : 0 < n) (h' : n ≤ 63) : IsLabel (idOfLength n) := by
  have letters : ∀ c ∈ (idOfLength n).toList, c.isLower := by
    rw [idOfLength, String.toList_ofList]
    intro c hc
    rw [(List.mem_replicate.mp hc).2]
    rfl
  exact
    { length_pos := by rwa [length_idOfLength]
      length_le := by rwa [length_idOfLength]
      chars := fun c hc => .inl (letters c hc)
      first := fun c hc => .inl (letters c (List.mem_of_mem_head? hc))
      last := fun c hc => .inl (letters c (List.mem_of_getLast? hc)) }

/-- With one character more, a pod is left without its service. -/
theorem service_lost_beyond_limit :
    let made n := checking.hold (provision ⟨idOfLength n, "nimak/geth", ["8545"]⟩).run
      (fun _ => Choice.mk fun _ => 30000) Objects.empty
    (IsServiceName (serviceName (idOfLength 59)) ∧ (made 59).1 = .ok ()) ∧
      ¬IsServiceName (serviceName (idOfLength 60)) ∧
      ((made 60).2.pods (idOfLength 60)).isSome ∧
      ¬((made 60).2.services (serviceName (idOfLength 60))).isSome := by
  intro made
  have hports : ∃ ports, Port.parseAll ["8545"] = .ok ports :=
    ⟨[{ number := 8545, protocol := .tcp }], by decide +kernel⟩
  obtain ⟨hnamed, -⟩ := services_named "10.0.0.1"
  have named : ∀ n, 0 < n → n ≤ 63 →
      (IsServiceName (serviceName (idOfLength n)) ↔ n ≤ 59) ∧
        ((made n).2.pods (idOfLength n)).isSome ∧
        (((made n).2.services (serviceName (idOfLength n))).isSome ↔ n ≤ 59) ∧
        ((made n).1 = .ok () ↔ n ≤ 59) := by
    intro n pos le
    obtain ⟨hallowed, -, hmade⟩ := hnamed (idOfLength n) (isLabel_idOfLength pos le)
    simp only [length_idOfLength] at hallowed hmade
    exact ⟨hallowed, hmade "nimak/geth" ["8545"] hports .empty _ rfl rfl⟩
  obtain ⟨hallowed, -, -, hok⟩ := named 59 (by decide) (by decide)
  obtain ⟨hallowed', hpod, hservice, -⟩ := named 60 (by decide) (by decide)
  exact ⟨⟨hallowed.mpr (by decide), hok.mpr (by decide)⟩,
    fun h => absurd (hallowed'.mp h) (by decide), hpod, fun h => absurd (hservice.mp h) (by decide)⟩

end Kubernetes

end ChainBroker
