import ChainBroker.Proofs.Setup
import ChainBroker.Proofs.Table

/-!
# Runs of operations

What operations come to is told from the list of services that a catalog is made of, in which ids
may occur more than once:

1. `lookup_byId`: of several services with one id, the last one is found;
2. `plan_ofList_iff`: the plan is looked for in that service, and nowhere else (`Looked`);
3. `transcript_on_iff`: one operation puts at most one question to the platform, and what it is told
   is its result (`Carried`);
4. `runs_of_operations`: a run of operations says what its operations say, one after the other.

A bind is not among these operations; it is the subject of `Broker.Course`.
-/

namespace ChainBroker

open Dialogue Attempt

/-! ## Services by their ids -/

theorem lookup_upsert {α : Type} (key name : String) (a : α) (entries : List (String × α)) :
    (upsert key a entries).lookup name = if name = key then some a else entries.lookup name := by
  induction entries with
  | nil =>
    unfold upsert
    rw [lookup_cons_eq_ite]
  | cons entry rest ih =>
    unfold upsert
    by_cases h : entry.1 = key
    · rw [if_pos h, lookup_cons_eq_ite, lookup_cons_eq_ite, h]
      split <;> rfl
    · rw [if_neg h, lookup_cons_eq_ite, lookup_cons_eq_ite, ih]
      by_cases hname : name = entry.1
      · rw [if_pos hname, if_pos hname, if_neg fun hkey => h (hname.symm.trans hkey)]
      · rw [if_neg hname, if_neg hname]

theorem lookup_foldl_upsert {α : Type} (id : α → String) (key : String) (l : List α)
    (entries : List (String × α)) :
    (l.foldl (fun entries a => upsert (id a) a entries) entries).lookup key =
      (l.reverse.find? fun a => id a = key).or (entries.lookup key) := by
  -- the first value of the list is among the entries when the others come
  induction l generalizing entries with
  | nil => rfl
  | cons a l ih =>
    rw [List.foldl_cons, ih, lookup_upsert, List.reverse_cons, List.find?_append, Option.or_assoc,
      List.find?_cons, List.find?_nil]
    by_cases h : id a = key
    · rw [if_pos h.symm, decide_eq_true h]
      rfl
    · rw [if_neg (Ne.symm h), decide_eq_false h]
      rfl

/-- Of several values with one id, the last one is found. -/
theorem lookup_byId {α : Type} (id : α → String) (key : String) (l : List α) :
    (byId id l).lookup key = l.reverse.find? fun a => id a = key := by
  unfold byId
  rw [lookup_foldl_upsert]
  exact Option.or_none

/-- The service is the last one in the list that has the id. -/
def Service.IsLast (services : List Service) (serviceId : String) (service : Service) : Prop :=
  ∃ before after, services = before ++ service :: after ∧ service.id = serviceId ∧
    ∀ other ∈ after, other.id ≠ serviceId

theorem Service.isLast_iff {services : List Service} {serviceId : String} {service : Service} :
    service.IsLast services serviceId ↔
      (byId Service.id services).lookup serviceId = some service := by
  rw [lookup_byId, List.find?_eq_some_iff_append]
  simp only [decide_eq_true_eq, Bool.not_eq_true', decide_eq_false_iff_not]
  constructor
  · rintro ⟨before, after, rfl, hid, hafter⟩
    refine ⟨hid, after.reverse, before.reverse, by simp, ?_⟩
    intro other hother
    exact hafter other (List.mem_reverse.mp hother)
  · rintro ⟨hid, after, before, hreverse, hafter⟩
    refine ⟨before.reverse, after.reverse, ?_, hid, ?_⟩
    · rw [← List.reverse_reverse services, hreverse]
      simp
    · intro other hother
      exact hafter other (List.mem_reverse.mp hother)

namespace Catalog

/-- What is found under the ids of a service and of a plan in a list of services. -/
inductive Looked (services : List Service) (serviceId planId : String) :
    Except Failure Plan → Prop where
  /-- No service has the id; the id of the plan does not matter. -/
  | unknownService (unknown : ∀ service ∈ services, service.id ≠ serviceId) :
    Looked services serviceId planId (.error (.serviceNotFound serviceId))
  /-- The last service with the id has no such plan, whatever the other ones have. -/
  | unknownPlan {service : Service} (last : service.IsLast services serviceId)
      (unknown : service.plans.lookup planId = none) :
    Looked services serviceId planId (.error (.planNotFound planId))
  /-- The last service with the id has the plan. -/
  | found {service : Service} {plan : Plan} (last : service.IsLast services serviceId)
      (known : service.plans.lookup planId = some plan) :
    Looked services serviceId planId (.ok plan)

variable {services : List Service} {serviceId planId : String}

theorem plan_of_isLast {service : Service} (last : service.IsLast services serviceId) :
    (ofList services).plan serviceId planId = service.plan planId := by
  unfold Catalog.plan Catalog.service ofList
  rw [Service.isLast_iff.mp last]

theorem plan_of_unknown (unknown : ∀ service ∈ services, service.id ≠ serviceId) :
    (ofList services).plan serviceId planId = .error (.serviceNotFound serviceId) := by
  have hlookup : (byId Service.id services).lookup serviceId = none := by
    rw [lookup_byId, List.find?_eq_none]
    intro service hservice
    simpa using unknown service (List.mem_reverse.mp hservice)
  unfold Catalog.plan Catalog.service ofList
  rw [hlookup]

theorem looked_plan (services : List Service) (serviceId planId : String) :
    Looked services serviceId planId ((ofList services).plan serviceId planId) := by
  by_cases unknown : ∀ service ∈ services, service.id ≠ serviceId
  · rw [plan_of_unknown unknown]
    exact .unknownService unknown
  · obtain ⟨service, last⟩ : ∃ service : Service, service.IsLast services serviceId := by
      simp only [Service.isLast_iff, lookup_byId]
      rw [← Option.isSome_iff_exists, List.find?_isSome]
      simpa using unknown
    rw [plan_of_isLast last]
    unfold Service.plan
    cases known : service.plans.lookup planId with
    | none => exact .unknownPlan last known
    | some plan => exact .found last known

/-- A plan is looked for in the last service with the id. -/
theorem plan_ofList_iff {found : Except Failure Plan} :
    (ofList services).plan serviceId planId = found ↔ Looked services serviceId planId found := by
  constructor
  · rintro rfl
    exact looked_plan services serviceId planId
  · intro h
    cases h with
    | unknownService unknown => exact plan_of_unknown unknown
    | unknownPlan last unknown => rw [plan_of_isLast last, Service.plan, unknown]
    | found last known => rw [plan_of_isLast last, Service.plan, known]

end Catalog

namespace Broker

/-! ## One operation -/

theorem transcript_ofExcept_bind_iff {I : Interface} {ε α β : Type} {x : Except ε α}
    {f : α → Attempt I ε β} {log : List (Exchange I)} {r : Except ε β} :
    Transcript (ofExcept id x >>= f).run log r ↔
      (∃ e, x = .error e ∧ log = [] ∧ r = .error e) ∨
        ∃ a, x = .ok a ∧ Transcript (f a).run log r := by
  cases x with
  | error e =>
    rw [ofExcept_error_bind, transcript_throw_iff]
    simp
  | ok a =>
    rw [ofExcept_ok_bind]
    simp

/-- A question whose answer is the result. -/
theorem transcript_question_ofExcept_iff {I : Interface} {ε α : Type} (q : I.Question)
    (result : I.Answer q → Except ε α) {log : List (Exchange I)} {r : Except ε α} :
    Transcript (Attempt.question q >>= fun answer => ofExcept id (result answer)).run log r ↔
      ∃ answer, log = [⟨q, answer⟩] ∧ r = result answer := by
  rw [transcript_question_bind_iff]
  constructor
  · rintro ⟨answer, rest, rfl, h⟩
    obtain ⟨rfl, rfl⟩ := transcript_ofExcept_iff.mp h
    exact ⟨answer, rfl, mapError_id _⟩
  · rintro ⟨answer, rfl, rfl⟩
    exact ⟨answer, [], rfl, transcript_ofExcept_iff.mpr ⟨rfl, (mapError_id _).symm⟩⟩

/-- An operation other than a bind. -/
inductive Operation where
  /-- Start an instance of a plan. -/
  | provision (serviceId planId instanceId : String)
  /-- Remove an instance of a plan. -/
  | deprovision (serviceId planId instanceId : String)
  /-- End a binding. -/
  | unbind (instanceId bindingId : String)
  | update (instanceId : String)
  /-- Tell how the last operation on an instance went. -/
  | lastOperation (instanceId operation : String)

/-- What the broker does for the operation. -/
def Operation.on (catalog : Catalog) : Operation → Attempt interface Failure Unit
  | .provision serviceId planId instanceId =>
    Broker.provision catalog serviceId planId instanceId
  | .deprovision serviceId planId instanceId =>
    Broker.deprovision catalog serviceId planId instanceId
  | .unbind instanceId bindingId => Broker.unbind instanceId bindingId
  | .update instanceId => Broker.update instanceId
  | .lastOperation instanceId operation => Broker.lastOperation instanceId operation

/-- What an operation says to the platform where the catalog is made of the services, and what it
ends with. -/
inductive Carried (services : List Service) :
    Operation → List (Exchange interface) → Except Failure Unit → Prop where
  /-- A provision without a plan says nothing. -/
  | unplannedProvision {serviceId planId instanceId : String} {e : Failure}
      (lookup : Catalog.Looked services serviceId planId (.error e)) :
    Carried services (.provision serviceId planId instanceId) [] (.error e)
  /-- A provision of a plan asks for its image and ports under the id of the instance. -/
  | provision {serviceId planId instanceId : String} {plan : Plan}
      (lookup : Catalog.Looked services serviceId planId (.ok plan)) (answer : Except Failure Unit) :
    Carried services (.provision serviceId planId instanceId)
      [⟨.provision ⟨instanceId, plan.image, plan.ports⟩, answer⟩] answer
  /-- A deprovision without a plan says nothing. -/
  | unplannedDeprovision {serviceId planId instanceId : String} {e : Failure}
      (lookup : Catalog.Looked services serviceId planId (.error e)) :
    Carried services (.deprovision serviceId planId instanceId) [] (.error e)
  /-- A deprovision of a plan asks to remove the instance. -/
  | deprovision {serviceId planId instanceId : String} {plan : Plan}
      (lookup : Catalog.Looked services serviceId planId (.ok plan)) (answer : Except Failure Unit) :
    Carried services (.deprovision serviceId planId instanceId)
      [⟨.deprovision instanceId, answer⟩] answer
  /-- Nothing has to be done to end a binding. -/
  | unbind (instanceId bindingId : String) :
    Carried services (.unbind instanceId bindingId) [] (.ok ())
  /-- Nothing has to be done to update an instance. -/
  | update (instanceId : String) : Carried services (.update instanceId) [] (.ok ())
  /-- All operations end at once. -/
  | lastOperation (instanceId operation : String) :
    Carried services (.lastOperation instanceId operation) [] (.ok ())

variable {services : List Service} {log : List (Exchange interface)}

theorem transcript_on_iff {op : Operation} {r : Except Failure Unit} :
    Transcript (op.on (.ofList services)).run log r ↔ Carried services op log r := by
  cases op with
  | provision serviceId planId instanceId =>
    refine transcript_ofExcept_bind_iff.trans ⟨?_, fun h => ?_⟩
    · rintro (⟨e, lookup, rfl, rfl⟩ | ⟨plan, lookup, hask⟩)
      · exact .unplannedProvision (Catalog.plan_ofList_iff.mp lookup)
      · obtain ⟨_, rfl, rfl⟩ := (transcript_question_ofExcept_iff (I := interface)
          (.provision (plan.workload instanceId)) id).mp hask
        exact .provision (Catalog.plan_ofList_iff.mp lookup) r
    · cases h with
      | unplannedProvision lookup =>
        exact .inl ⟨_, Catalog.plan_ofList_iff.mpr lookup, rfl, rfl⟩
      | @provision _ _ _ plan lookup =>
        refine .inr ⟨plan, Catalog.plan_ofList_iff.mpr lookup, ?_⟩
        exact (transcript_question_ofExcept_iff (I := interface)
          (.provision (plan.workload instanceId)) id).mpr ⟨r, rfl, rfl⟩
  | deprovision serviceId planId instanceId =>
    refine transcript_ofExcept_bind_iff.trans ⟨?_, fun h => ?_⟩
    · rintro (⟨e, lookup, rfl, rfl⟩ | ⟨plan, lookup, hask⟩)
      · exact .unplannedDeprovision (Catalog.plan_ofList_iff.mp lookup)
      · obtain ⟨_, rfl, rfl⟩ := (transcript_question_ofExcept_iff (I := interface)
          (.deprovision instanceId) id).mp hask
        exact .deprovision (Catalog.plan_ofList_iff.mp lookup) r
    · cases h with
      | unplannedDeprovision lookup =>
        exact .inl ⟨_, Catalog.plan_ofList_iff.mpr lookup, rfl, rfl⟩
      | deprovision lookup =>
        refine .inr ⟨_, Catalog.plan_ofList_iff.mpr lookup, ?_⟩
        exact (transcript_question_ofExcept_iff (I := interface)
          (.deprovision instanceId) id).mpr ⟨r, rfl, rfl⟩
  -- for the others nothing is looked up, and nothing is asked for
  | unbind instanceId bindingId =>
    refine transcript_pure_iff.trans ⟨?_, fun h => ?_⟩
    · rintro ⟨rfl, rfl⟩
      exact .unbind instanceId bindingId
    · cases h
      exact ⟨rfl, rfl⟩
  | update instanceId =>
    refine transcript_pure_iff.trans ⟨?_, fun h => ?_⟩
    · rintro ⟨rfl, rfl⟩
      exact .update instanceId
    · cases h
      exact ⟨rfl, rfl⟩
  | lastOperation instanceId operation =>
    refine transcript_pure_iff.trans ⟨?_, fun h => ?_⟩
    · rintro ⟨rfl, rfl⟩
      exact .lastOperation instanceId operation
    · cases h
      exact ⟨rfl, rfl⟩

/-! ## Runs -/

/-- Operations one after the other, and what each of them ends with. -/
def Operation.runAll (catalog : Catalog) :
    List Operation → Dialogue interface (List (Except Failure Unit))
  | [] => .done []
  | op :: ops =>
    (op.on catalog).run.bind fun r => (runAll catalog ops).bind fun rs => .done (r :: rs)

/-- The operations are carried out one after the other. -/
inductive Runs (services : List Service) :
    List Operation → List (Exchange interface) → List (Except Failure Unit) → Prop where
  /-- Nothing is said without an operation. -/
  | nil : Runs services [] [] []
  /-- What the first operation says comes before what the others say. -/
  | cons {op : Operation} {ops : List Operation} {said log : List (Exchange interface)}
      {r : Except Failure Unit} {rs : List (Except Failure Unit)} (first : Carried services op said r)
      (others : Runs services ops log rs) : Runs services (op :: ops) (said ++ log) (r :: rs)

theorem transcript_runAll_iff {ops : List Operation} {rs : List (Except Failure Unit)} :
    Transcript (Operation.runAll (.ofList services) ops) log rs ↔ Runs services ops log rs := by
  induction ops generalizing log rs with
  | nil =>
    refine transcript_done_iff.trans ⟨?_, fun h => ?_⟩
    · rintro ⟨rfl, rfl⟩
      exact .nil
    · cases h
      exact ⟨rfl, rfl⟩
  | cons op ops ih =>
    unfold Operation.runAll
    simp only [transcript_bind_iff, transcript_done_iff, transcript_on_iff, ih]
    constructor
    · rintro ⟨said, r, _, rfl, first, log, rs, _, rfl, others, rfl, rfl⟩
      rw [List.append_nil]
      exact .cons first others
    · intro h
      cases h with
      | cons first others =>
        exact ⟨_, _, _, rfl, first, _, _, [], (List.append_nil _).symm, others, rfl, rfl⟩

/-- **A run of operations puts to the platform just what each operation owes it**: nothing for those
that have nothing to do or find no plan, and one question for the others. Every platform can be run
against to the end, and each operation ends with what the platform has answered to it. -/
theorem runs_of_operations (services : List Service) (ops : List Operation) :
    (∀ log rs,
      Transcript (Operation.runAll (.ofList services) ops) log rs ↔ Runs services ops log rs) ∧
    ∀ platform : Behaviour interface,
      Runs services ops (hold platform (Operation.runAll (.ofList services) ops)).2
        (hold platform (Operation.runAll (.ofList services) ops)).1 := by
  constructor
  · intro log rs
    exact transcript_runAll_iff
  · intro platform
    exact transcript_runAll_iff.mp (transcript_hold platform _)

end Broker

end ChainBroker
