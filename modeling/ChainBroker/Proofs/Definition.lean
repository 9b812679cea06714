import ChainBroker.Proofs.Loader

/-!
# What definitions become

A definition is `Usable` exactly if the loader makes a service of it, and otherwise the first of its
faults is reported (`ServiceDefinition.Faulty`). Ids count as far as they are given: those that are
made up are taken to be apart from each other and from the ones that are given (`Supply`).
-/

namespace ChainBroker

/-! ## Plans -/

namespace PlanDefinition

/-- A plan with an image and with ports, all of which are ports. -/
structure Usable (d : PlanDefinition) : Prop where
  /-- The image is not blank. -/
  image : ∃ c ∈ d.image.toList, Text.isBlank c = false
  /-- There is a port. -/
  ports : d.ports ≠ []
  /-- Every text of a port is one. -/
  parse : ∀ spec ∈ d.ports, ∃ port, Port.parse spec = .ok port

theorem fault?_eq_none_iff {d : PlanDefinition} : d.fault? = none ↔ d.Usable := by
  constructor
  · intro h
    have runnable := runnable_of_fault? h ""
    exact ⟨runnable.image, runnable.ports, runnable.parse⟩
  · intro h
    obtain ⟨ports, hports⟩ := Port.exists_parseAll_iff.mpr h.parse
    unfold fault?
    rw [isBlankText_eq_false_iff.mpr h.image, if_neg Bool.false_ne_true, if_neg h.ports, hports]

instance (d : PlanDefinition) : Decidable d.Usable := decidable_of_iff _ fault?_eq_none_iff

/-- The plans under their ids. -/
def entries (freshIds : Nat → String) (ds : List PlanDefinition) : List (String × Plan) :=
  ds.zipIdx.map fun p => p.1.entry (freshIds p.2)

end PlanDefinition

section Plans

variable {path service : String} {freshIds : Nat → String} {index : Nat}
  {seen plans : List (String × Plan)} {ds : List PlanDefinition}

theorem map_fst_entries :
    (PlanDefinition.entries freshIds ds).map Prod.fst =
      (ds.map PlanDefinition.id).zipIdx.map fun p => p.1.getD (freshIds p.2) := by
  unfold PlanDefinition.entries
  rw [List.zipIdx_map, List.map_map, List.map_map]
  rfl

/-- The plans are usable, and no id is given twice. -/
theorem plansOf_eq_ok_iff (supply : Supply freshIds (ds.map PlanDefinition.id)) :
    plansOf path service freshIds 0 [] ds = .ok plans ↔
      (∀ d ∈ ds, d.Usable) ∧ (ds.filterMap PlanDefinition.id).Nodup ∧
        plans = PlanDefinition.entries freshIds ds := by
  have usable : (∀ p ∈ ds.zipIdx, p.1.fault? = none) ↔ ∀ d ∈ ds, d.Usable := by
    simp only [← PlanDefinition.fault?_eq_none_iff]
    conv_rhs => rw [← List.zipIdx_map_fst 0 ds, List.forall_mem_map]
  have keys : ((PlanDefinition.entries freshIds ds).map Prod.fst).Nodup ↔
      (ds.filterMap PlanDefinition.id).Nodup := by
    rw [map_fst_entries, supply.nodup_iff, List.filterMap_map]
    rfl
  rw [plansOf_eq_gather, gather_eq_ok_iff,
    map_eq_map_ok_iff (g := fun p => p.1.entry (freshIds p.2))
      (fun _ _ => PlanDefinition.make_eq_ok_iff), usable, and_assoc]
  refine and_congr_right fun _ => ?_
  rw [and_comm]
  refine and_congr_left ?_
  rintro rfl
  exact keys

/-- The first plan that cannot be taken has a fault, or has its id from an earlier one. -/
theorem exists_of_plansOf_eq_error (supply : Supply freshIds (ds.map PlanDefinition.id))
    {fault : CatalogFault} (h : plansOf path service freshIds 0 [] ds = .error fault) :
    ∃ before d after, ds = before ++ d :: after ∧ (∀ other ∈ before, other.Usable) ∧
      (before.filterMap PlanDefinition.id).Nodup ∧
      ((∃ reason, d.fault? = some reason ∧ fault = .badPlan path service d.name reason) ∨
        d.Usable ∧ ∃ id, d.id = some id ∧ some id ∈ before.map PlanDefinition.id ∧
          fault = .duplicatePlan path id) := by
  rw [plansOf_eq_gather, gather_eq_error_iff] at h
  obtain ⟨before, d, after, made, rfl, hmade, refused⟩ := h
  have hbefore : Supply freshIds (before.map PlanDefinition.id) := by
    rw [List.map_append] at supply
    exact supply.left
  rw [← plansOf_eq_gather, plansOf_eq_ok_iff hbefore] at hmade
  obtain ⟨usable, distinct, rfl⟩ := hmade
  refine ⟨before, d, after, rfl, usable, distinct, ?_⟩
  -- a plan is refused for a fault of its own, or for an id that is taken
  cases refused with
  | unmade hmake =>
    rw [PlanDefinition.make] at hmake
    cases hfault : d.fault? with
    | none => simp [hfault] at hmake
    | some reason =>
      rw [hfault] at hmake
      exact .inl ⟨reason, rfl, (Except.error.inj hmake).symm⟩
  | taken hmake hkey =>
    obtain ⟨hfault, rfl⟩ := PlanDefinition.make_eq_ok_iff.mp hmake
    rw [map_fst_entries, Nat.zero_add] at hkey
    rw [List.map_append, List.map_cons] at supply
    obtain ⟨id, hid, hgiven⟩ := supply.given_of_mem (List.length_map _) hkey
    refine .inr ⟨PlanDefinition.fault?_eq_none_iff.mp hfault, id, hid, hgiven, ?_⟩
    rw [PlanDefinition.entry, hid, Option.getD_some]

end Plans

/-! ## Services -/

namespace ServiceDefinition

/-- The ids that a file gives or leaves out: of the service, and of its plans in order. -/
def ids (d : ServiceDefinition) : List (Option String) := d.id :: d.plans.map PlanDefinition.id

/-- A service with a name and with usable plans, no two of which are given one id. -/
structure Usable (d : ServiceDefinition) : Prop where
  /-- The name is not blank. -/
  name : ∃ c ∈ d.name.toList, Text.isBlank c = false
  /-- There is a plan. -/
  plans : d.plans ≠ []
  /-- Every plan is usable. -/
  each : ∀ plan ∈ d.plans, plan.Usable
  /-- No two plans are given one id. -/
  distinct : (d.plans.filterMap PlanDefinition.id).Nodup

instance (d : ServiceDefinition) : Decidable d.Usable :=
  decidable_of_iff
    (Text.isBlankText d.name = false ∧ d.plans ≠ [] ∧ (∀ plan ∈ d.plans, plan.Usable) ∧
      (d.plans.filterMap PlanDefinition.id).Nodup)
    ⟨fun ⟨name, plans, each, distinct⟩ =>
        ⟨isBlankText_eq_false_iff.mp name, plans, each, distinct⟩,
      fun h => ⟨isBlankText_eq_false_iff.mpr h.name, h.plans, h.each, h.distinct⟩⟩

/-- The first fault of a definition, in the order of the file. -/
inductive Faulty (path : String) (d : ServiceDefinition) : CatalogFault → Prop where
  /-- The name is blank. -/
  | noName (h : ¬∃ c ∈ d.name.toList, Text.isBlank c = false) : Faulty path d (.noName path)
  /-- There are no plans. -/
  | noPlans (name : ∃ c ∈ d.name.toList, Text.isBlank c = false) (h : d.plans = []) :
    Faulty path d (.noPlans path d.name)
  /-- A plan is not usable, while those before it are. -/
  | badPlan {before after : List PlanDefinition} {plan : PlanDefinition} {reason : PlanFault}
      (name : ∃ c ∈ d.name.toList, Text.isBlank c = false)
      (plans : d.plans = before ++ plan :: after) (usable : ∀ other ∈ before, other.Usable)
      (distinct : (before.filterMap PlanDefinition.id).Nodup)
      (h : plan.fault? = some reason) :
    Faulty path d (.badPlan path d.name plan.name reason)
  /-- A plan is given the id of an earlier one. -/
  | duplicatePlan {before after : List PlanDefinition} {plan : PlanDefinition} {id : String}
      (name : ∃ c ∈ d.name.toList, Text.isBlank c = false)
      (plans : d.plans = before ++ plan :: after) (usable : ∀ other ∈ before, other.Usable)
      (distinct : (before.filterMap PlanDefinition.id).Nodup)
      (last : plan.Usable) (hid : plan.id = some id)
      (given : some id ∈ before.map PlanDefinition.id) :
    Faulty path d (.duplicatePlan path id)

/-- The service of a definition, with fresh ids for those that are left out. -/
def made (freshIds : Nat → String) (d : ServiceDefinition) : Service where
  id := d.id.getD (freshIds 0)
  name := d.name
  description := d.description
  tags := d.tags
  displayName := d.displayName
  plans := PlanDefinition.entries (fun index => freshIds (index + 1)) d.plans

variable {path : String} {freshIds : Nat → String} {d : ServiceDefinition}

theorem toService_eq_ok_iff (supply : Supply freshIds d.ids) {service : Service} :
    d.toService path freshIds = .ok service ↔ d.Usable ∧ service = d.made freshIds := by
  constructor
  · intro h
    unfold toService at h
    split at h
    · cases h
    · next hname =>
      split at h
      · cases h
      · next hplans =>
        split at h
        · cases h
        · next plans hplansOf =>
          cases h
          obtain ⟨each, distinct, rfl⟩ := (plansOf_eq_ok_iff supply.tail).mp hplansOf
          have name := isBlankText_eq_false_iff.mp (Bool.eq_false_iff.mpr hname)
          exact ⟨⟨name, hplans, each, distinct⟩, rfl⟩
  · rintro ⟨usable, rfl⟩
    unfold toService
    rw [isBlankText_eq_false_iff.mpr usable.name, if_neg Bool.false_ne_true, if_neg usable.plans,
      (plansOf_eq_ok_iff supply.tail).mpr ⟨usable.each, usable.distinct, rfl⟩]
    rfl

theorem faulty_of_toService_eq_error (supply : Supply freshIds d.ids) {fault : CatalogFault}
    (h : d.toService path freshIds = .error fault) : d.Faulty path fault := by
  unfold toService at h
  split at h
  · next hname =>
    cases h
    refine .noName fun name => ?_
    rw [isBlankText_eq_false_iff.mpr name] at hname
    cases hname
  · next hname =>
    have name := isBlankText_eq_false_iff.mp (Bool.eq_false_iff.mpr hname)
    split at h
    · next hplans =>
      cases h
      exact .noPlans name hplans
    · split at h
      · next reported hplansOf =>
        cases h
        obtain ⟨before, plan, after, hplans, usable, distinct, offence⟩ :=
          exists_of_plansOf_eq_error supply.tail hplansOf
        rcases offence with ⟨reason, hreason, rfl⟩ | ⟨last, id, hid, given, rfl⟩
        · exact .badPlan name hplans usable distinct hreason
        · exact .duplicatePlan name hplans usable distinct last hid given
      · cases h

end ServiceDefinition

end ChainBroker
