import ChainBroker.Proofs.Loader
import ChainBroker.Proofs.Utf8
import Mathlib.Data.List.Perm.Basic

/-!
# What a catalog offers

The offerings are made of the entries of a catalog and sorted by names, while plans are looked up by
ids. Both speak of the same services and plans, because these stand under their own ids.

1. In a catalog like that (`Catalog.Keyed`), what a look-up finds is what the entries hold.
2. The ids on offer are those of the entries, in another order, and none of them occurs twice.
3. The catalog may enumerate its entries in any order (`Catalog.Enumerates`): it stays like that,
   and the same is found. So the offerings tell of exactly the plans that are found
   (`Catalog.Made.advertises`).
-/

namespace ChainBroker

/-- A service whose plans stand under their own ids, each id once. -/
def Service.Keyed (service : Service) : Prop := Stored Plan.id (fun _ => True) service.plans

theorem Service.mem_plans_offering_iff {service : Service} {told : PlanOffering} :
    told ∈ service.offering.plans ↔ ∃ entry ∈ service.plans, entry.2.offering = told := by
  unfold offering
  rw [(List.mergeSort_perm _ _).mem_iff, List.mem_map]

namespace Catalog

/-- A catalog whose services stand under their own ids, each id once, and so do their plans. -/
def Keyed (catalog : Catalog) : Prop := Stored Service.id Service.Keyed catalog.entries

variable {catalog shown : Catalog} {serviceId planId : String}

/-! ## Look-ups -/

theorem Keyed.service_eq_ok_iff (h : catalog.Keyed) {service : Service} :
    catalog.service serviceId = .ok service ↔ (serviceId, service) ∈ catalog.entries := by
  rw [← Stored.lookup_eq_some_iff h]
  unfold Catalog.service
  cases catalog.entries.lookup serviceId with
  | none => exact ⟨nofun, nofun⟩
  | some found => rw [Except.ok.injEq, Option.some.injEq]

theorem Keyed.plan_eq_ok_iff (h : catalog.Keyed) {plan : Plan} :
    catalog.plan serviceId planId = .ok plan ↔
      ∃ service, (serviceId, service) ∈ catalog.entries ∧ (planId, plan) ∈ service.plans := by
  unfold Catalog.plan
  cases hservice : catalog.service serviceId with
  | error e =>
    refine ⟨nofun, ?_⟩
    rintro ⟨service, hmem, -⟩
    rw [h.service_eq_ok_iff.mpr hmem] at hservice
    cases hservice
  | ok service =>
    have hmem := h.service_eq_ok_iff.mp hservice
    -- a key stands for one service
    have hunique : ∀ other, (serviceId, other) ∈ catalog.entries → other = service := by
      intro other hother
      rw [h.service_eq_ok_iff.mpr hother] at hservice
      exact Except.ok.inj hservice
    have hplans : (planId, plan) ∈ service.plans ↔ service.plan planId = .ok plan := by
      rw [← Stored.lookup_eq_some_iff (h.each _ hmem)]
      unfold Service.plan
      cases service.plans.lookup planId with
      | none => exact ⟨nofun, nofun⟩
      | some found => rw [Except.ok.injEq, Option.some.injEq]
    rw [← hplans]
    constructor
    · exact fun hplan => ⟨service, hmem, hplan⟩
    · rintro ⟨other, hother, hplan⟩
      rwa [hunique other hother] at hplan

/-! ## Offerings -/

/-- The ids under which plans are on offer. -/
def offeredIds (offerings : List Offering) : List (String × String) :=
  offerings.flatMap fun offering => offering.plans.map fun told => (offering.id, told.id)

/-- The ids under which the entries of the catalog stand. -/
def ids (catalog : Catalog) : List (String × String) :=
  catalog.entries.flatMap fun entry => entry.2.plans.map fun planEntry => (entry.1, planEntry.1)

theorem mem_ids_iff :
    (serviceId, planId) ∈ catalog.ids ↔
      ∃ service plan, (serviceId, service) ∈ catalog.entries ∧ (planId, plan) ∈ service.plans := by
  unfold ids
  simp only [List.mem_flatMap, List.mem_map, Prod.mk.injEq]
  constructor
  · rintro ⟨⟨_, service⟩, hservice, ⟨_, plan⟩, hplan, rfl, rfl⟩
    exact ⟨service, plan, hservice, hplan⟩
  · rintro ⟨service, plan, hservice, hplan⟩
    exact ⟨_, hservice, _, hplan, rfl, rfl⟩

theorem Keyed.nodup_ids (h : catalog.Keyed) : catalog.ids.Nodup := by
  unfold ids
  rw [List.nodup_flatMap]
  constructor
  · intro entry hentry
    have hinjective : Function.Injective fun planId : String => (entry.1, planId) :=
      fun _ _ heq => (Prod.mk.inj heq).2
    have hnodup := (h.each entry hentry).unique.map hinjective
    rwa [List.map_map] at hnodup
  · refine (List.pairwise_map.mp h.unique).imp ?_
    intro entry other hne pair hpair hpair'
    obtain ⟨_, -, rfl⟩ := List.mem_map.mp hpair
    obtain ⟨_, -, heq⟩ := List.mem_map.mp hpair'
    exact hne (Prod.mk.inj heq).1.symm

theorem mem_offerings_iff {offering : Offering} :
    offering ∈ catalog.offerings ↔ ∃ entry ∈ catalog.entries, entry.2.offering = offering := by
  unfold offerings services
  rw [(List.mergeSort_perm _ _).mem_iff, List.map_map, List.mem_map]
  rfl

/-- The ids on offer are those of the entries. -/
theorem Keyed.offeredIds_perm (h : catalog.Keyed) :
    (offeredIds catalog.offerings).Perm catalog.ids := by
  have hplans : ∀ entry ∈ catalog.entries,
      (entry.2.offering.plans.map fun told => (entry.2.offering.id, told.id)).Perm
        (entry.2.plans.map fun planEntry => (entry.1, planEntry.1)) := by
    intro entry hentry
    refine ((List.mergeSort_perm _ _).map _).trans (.of_eq ?_)
    rw [List.map_map]
    refine List.map_congr_left fun planEntry hplan => ?_
    rw [h.own entry hentry, (h.each entry hentry).own planEntry hplan]
    rfl
  refine ((List.mergeSort_perm _ _).flatMap_right _).trans ?_
  unfold services
  rw [List.map_map, List.flatMap_map]
  exact List.Perm.flatMap_left _ hplans

/-- The offerings tell of exactly the plans that the catalog finds, each of them once, and in the
order of the names. -/
structure Advertises (offerings : List Offering) (catalog : Catalog) : Prop where
  /-- The ids on offer are those under which a plan is found. -/
  found : ∀ serviceId planId, (serviceId, planId) ∈ offeredIds offerings ↔
    ∃ plan, catalog.plan serviceId planId = .ok plan
  /-- No ids are on offer twice. -/
  once : (offeredIds offerings).Nodup
  /-- What is told of a service holds of the one that is found. -/
  services : ∀ offering ∈ offerings, ∃ service, catalog.service offering.id = .ok service ∧
    offering.name = service.name ∧ offering.description = service.description ∧
    offering.tags = service.tags ∧ offering.displayName = service.displayName
  /-- What is told of a plan holds of the one that is found. -/
  plans : ∀ offering ∈ offerings, ∀ told ∈ offering.plans,
    ∃ plan, catalog.plan offering.id told.id = .ok plan ∧ told.name = plan.name ∧
      told.description = plan.description
  /-- The services are in the order of the bytes of their names. -/
  ordered : offerings.Pairwise fun a b => Utf8.encode a.name ≤ Utf8.encode b.name
  /-- The plans of each service are in the order of the bytes of their names. -/
  plansOrdered : ∀ offering ∈ offerings,
    offering.plans.Pairwise fun a b => Utf8.encode a.name ≤ Utf8.encode b.name

/-- A catalog offers what it finds itself. -/
theorem Keyed.advertises_self (h : catalog.Keyed) : Advertises catalog.offerings catalog where
  found serviceId planId := by
    rw [h.offeredIds_perm.mem_iff, mem_ids_iff]
    simp only [h.plan_eq_ok_iff]
    exact exists_comm
  once := h.offeredIds_perm.nodup_iff.mpr h.nodup_ids
  services offering hoffering := by
    obtain ⟨entry, hentry, rfl⟩ := mem_offerings_iff.mp hoffering
    refine ⟨entry.2, h.service_eq_ok_iff.mpr ?_, rfl, rfl, rfl, rfl⟩
    show (entry.2.id, entry.2) ∈ catalog.entries
    rwa [← h.own entry hentry]
  plans offering hoffering told htold := by
    obtain ⟨entry, hentry, rfl⟩ := mem_offerings_iff.mp hoffering
    obtain ⟨planEntry, hplan, rfl⟩ := Service.mem_plans_offering_iff.mp htold
    refine ⟨planEntry.2, h.plan_eq_ok_iff.mpr ⟨entry.2, ?_, ?_⟩, rfl, rfl⟩
    · show (entry.2.id, entry.2) ∈ catalog.entries
      rwa [← h.own entry hentry]
    · show (planEntry.2.id, planEntry.2) ∈ entry.2.plans
      rwa [← (h.each entry hentry).own planEntry hplan]
  ordered := Utf8.pairwise_mergeSort Offering.name _
  plansOrdered offering hoffering := by
    obtain ⟨entry, -, rfl⟩ := mem_offerings_iff.mp hoffering
    exact Utf8.pairwise_mergeSort PlanOffering.name _

/-! ## Orders of enumeration -/

/-- The catalog `shown` lists the same services under the same ids, each with the same plans, in any
order. -/
def Enumerates (shown catalog : Catalog) : Prop :=
  ∃ plansOf : String × Service → List (String × Plan),
    (∀ entry ∈ catalog.entries, (plansOf entry).Perm entry.2.plans) ∧
    shown.entries.Perm
      (catalog.entries.map fun entry => (entry.1, { entry.2 with plans := plansOf entry }))

theorem Keyed.enumerated (h : catalog.Keyed) (order : shown.Enumerates catalog) : shown.Keyed := by
  obtain ⟨plansOf, hplans, hperm⟩ := order
  refine Stored.perm ?_ hperm
  constructor
  · rw [List.forall_mem_map]
    exact h.own
  · rw [List.map_map]
    exact h.unique
  · rw [List.forall_mem_map]
    exact fun entry hentry => (h.each entry hentry).perm (hplans entry hentry)

/-- What is found does not depend on the order. -/
theorem Keyed.plan_eq_ok_iff_of_enumerates (h : catalog.Keyed) (order : shown.Enumerates catalog)
    {plan : Plan} :
    shown.plan serviceId planId = .ok plan ↔ catalog.plan serviceId planId = .ok plan := by
  rw [(h.enumerated order).plan_eq_ok_iff, h.plan_eq_ok_iff]
  obtain ⟨plansOf, hplans, hperm⟩ := order
  constructor
  · rintro ⟨service, hservice, hplan⟩
    obtain ⟨entry, hentry, heq⟩ := List.mem_map.mp (hperm.mem_iff.mp hservice)
    cases heq
    exact ⟨entry.2, hentry, (hplans entry hentry).mem_iff.mp hplan⟩
  · rintro ⟨service, hservice, hplan⟩
    refine ⟨{ service with plans := plansOf (serviceId, service) }, ?_, ?_⟩
    · exact hperm.mem_iff.mpr (List.mem_map.mpr ⟨_, hservice, rfl⟩)
    · exact (hplans _ hservice).mem_iff.mpr hplan

theorem Keyed.exists_service_of_enumerates (h : catalog.Keyed) (order : shown.Enumerates catalog)
    {service : Service} (hservice : shown.service serviceId = .ok service) :
    ∃ plans, catalog.service serviceId = .ok { service with plans } := by
  have hmem := (h.enumerated order).service_eq_ok_iff.mp hservice
  obtain ⟨plansOf, -, hperm⟩ := order
  obtain ⟨entry, hentry, heq⟩ := List.mem_map.mp (hperm.mem_iff.mp hmem)
  cases heq
  exact ⟨entry.2.plans, h.service_eq_ok_iff.mpr hentry⟩

/-- The ways in which a catalog comes about. -/
inductive Made : Catalog → Prop where
  /-- It is loaded from a directory. -/
  | loaded {dir : String} {freshIds : FreshIds} {listing : Except OsError Listing}
      {catalog : Catalog} (h : load dir freshIds listing = .ok catalog) : Made catalog
  /-- It is made of a list of services, whose plans stand under their own ids. -/
  | listed {services : List Service} (keyed : ∀ service ∈ services, service.Keyed) :
    Made (.ofList services)

theorem Made.keyed (h : catalog.Made) : catalog.Keyed := by
  cases h with
  | loaded h =>
    refine (runnable_of_load h).stored.mono fun service hservice => ?_
    exact hservice.stored.mono fun _ _ => trivial
  | listed keyed => exact Stored.byId keyed

/-- **What a catalog offers is what can be provisioned from it**, in whatever order it enumerates
its services and plans. -/
theorem Made.advertises (made : catalog.Made) (order : shown.Enumerates catalog) :
    Advertises shown.offerings catalog := by
  have keyed : catalog.Keyed := made.keyed
  have own : Advertises shown.offerings shown := (keyed.enumerated order).advertises_self
  refine ⟨fun serviceId planId => ?_, own.once, fun offering hoffering => ?_,
    fun offering hoffering told htold => ?_, own.ordered, own.plansOrdered⟩
  · simp only [own.found, keyed.plan_eq_ok_iff_of_enumerates order]
  · obtain ⟨service, hservice, told⟩ := own.services offering hoffering
    obtain ⟨plans, hfound⟩ := keyed.exists_service_of_enumerates order hservice
    exact ⟨_, hfound, told⟩
  · obtain ⟨plan, hplan, told⟩ := own.plans offering hoffering told htold
    exact ⟨plan, (keyed.plan_eq_ok_iff_of_enumerates order).mp hplan, told⟩

/-- The catalog with everything in the opposite order. -/
def backwards (catalog : Catalog) : Catalog where
  entries := (catalog.entries.map fun entry =>
    (entry.1, { entry.2 with plans := entry.2.plans.reverse })).reverse

/-- A service that differs from others like it in its id only, with two plans that differ in their
ids only. -/
def twin (id : String) : Service where
  id := id
  name := "node"
  description := ""
  tags := []
  displayName := ""
  plans := ["a", "b"].map fun planId => (planId, ⟨planId, "free", "", "geth", ["8545"]⟩)

theorem twin_keyed (id : String) : (twin id).Keyed where
  own := by simp [twin]
  unique := by simp [twin]
  each := fun _ _ => trivial

theorem twins_advertises :
    Made (ofList [twin "x", twin "y"]) ∧
    (ofList [twin "x", twin "y"]).backwards.Enumerates (ofList [twin "x", twin "y"]) ∧
    Advertises (ofList [twin "x", twin "y"]).backwards.offerings
      (ofList [twin "x", twin "y"]) := by
  have made : Made (ofList [twin "x", twin "y"]) := .listed (by simp [twin_keyed])
  have order : (ofList [twin "x", twin "y"]).backwards.Enumerates
      (ofList [twin "x", twin "y"]) :=
    ⟨fun entry => entry.2.plans.reverse, fun _ _ => List.reverse_perm _, List.reverse_perm _⟩
  exact ⟨made, order, made.advertises order⟩

end Catalog

end ChainBroker
