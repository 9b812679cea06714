import ChainBroker.Proofs.Offerings
import ChainBroker.Proofs.Operations
import ChainBroker.Proofs.Sorting
import Mathlib.Tactic.Choose

/-!
# The order of what is offered

Services and the plans of each are listed in some order, collected under their ids, enumerated in some
order and sorted by their names, which may occur more than once.

1. Only one thing can be told of a service exactly if those of its plans that have one name, or stand
   under one key, are told alike (`Service.told_unique_iff`).
2. The catalogs of some services offer what can be told of each of them, in the order of the names
   (`Catalog.Shows.exists_told`, `Catalog.exists_shows`).
3. So the names always come out in one order. The offerings do so exactly if no two services have one
   name and only one thing can be told of each (`Catalog.offerings_settled_iff`).
-/

namespace ChainBroker

/-! ## Collecting plans -/

/-- What is stored last under a key is what counts. -/
theorem upsert_upsert {α : Type} (key : String) (a b : α) (entries : List (String × α)) :
    upsert key b (upsert key a entries) = upsert key b entries := by
  induction entries with
  | nil => simp [upsert]
  | cons entry rest ih =>
    by_cases h : entry.1 = key
    · simp [upsert, h]
    · simp [upsert, h, ih]

/-- The place where a value is put does not depend on the value. -/
theorem exists_upsert_eq {α : Type} (key : String) (entries : List (String × α)) :
    ∃ before after, ∀ a, upsert key a entries = before ++ (key, a) :: after := by
  induction entries with
  | nil => exact ⟨[], [], fun _ => rfl⟩
  | cons entry rest ih =>
    by_cases h : entry.1 = key
    · exact ⟨[], rest, fun a => by rw [upsert, if_pos h, List.nil_append]⟩
    · obtain ⟨before, after, hput⟩ := ih
      exact ⟨entry :: before, after, fun a => by rw [upsert, if_neg h, hput, List.cons_append]⟩

/-- What stays of plans under keys: the last one of each key. -/
def collect (l : List (String × Plan)) : List (String × Plan) := (byId Prod.fst l).map Prod.snd

theorem stored_byId_self (l : List (String × Plan)) :
    Stored Prod.fst (· ∈ l) (byId Prod.fst l) :=
  Stored.byId fun _ h => h

theorem mem_of_mem_collect {l : List (String × Plan)} {entry : String × Plan}
    (h : entry ∈ collect l) : entry ∈ l := by
  obtain ⟨stored, hmem, rfl⟩ := List.mem_map.mp h
  exact (stored_byId_self l).each stored hmem

theorem nodup_keys_collect (l : List (String × Plan)) : ((collect l).map Prod.fst).Nodup := by
  have hkeys : (collect l).map Prod.fst = (byId Prod.fst l).map Prod.fst := by
    unfold collect
    rw [List.map_map]
    exact List.map_congr_left fun stored hmem => ((stored_byId_self l).own stored hmem).symm
  rw [hkeys]
  exact (stored_byId_self l).unique

/-- Something stays under every key. -/
theorem exists_mem_collect {l : List (String × Plan)} {entry : String × Plan} (h : entry ∈ l) :
    ∃ other ∈ collect l, other.1 = entry.1 := by
  have hfound : ((byId Prod.fst l).lookup entry.1).isSome := by
    rw [lookup_byId, List.find?_isSome]
    exact ⟨entry, List.mem_reverse.mpr h, decide_eq_true rfl⟩
  obtain ⟨other, hother⟩ := Option.isSome_iff_exists.mp hfound
  exact ⟨other, List.mem_map.mpr ⟨_, mem_of_lookup_eq_some hother, rfl⟩,
    ((stored_byId_self l).of_lookup hother).1⟩

theorem head_eq_of_perm_middle {α : Type} {a b : α} {before after : List α}
    (h : (before ++ a :: after).Perm (before ++ b :: after)) : a = b := by
  rw [List.perm_append_left_iff] at h
  have hsingle : [a].Perm [b] := (List.perm_append_right_iff after).mp h
  exact List.singleton_perm_singleton.mp hsingle

/-! ## What is told of a service -/

namespace Service

/-- The plans with one name, or under one key, are told alike. -/
def PlansAlike (service : Service) : Prop :=
  ∀ a ∈ service.plans, ∀ b ∈ service.plans,
    a.1 = b.1 ∨ a.2.name = b.2.name → a.2.offering = b.2.offering

/-- The offering can be told of the service: its plans are listed in some order, and those that stay
are enumerated in some order. -/
def Told (service : Service) (offering : Offering) : Prop :=
  ∃ listed plans, listed.Perm service.plans ∧ plans.Perm (collect listed) ∧
    offering = { service with plans }.offering

variable {service : Service}

/-- A service is offered under its own id -/
theorem Told.id_eq {offering : Offering} (h : service.Told offering) :
    offering.id = service.id := by
  obtain ⟨listed, plans, -, -, rfl⟩ := h
  rfl

/-- and its own name. -/
theorem Told.name_eq {offering : Offering} (h : service.Told offering) :
    offering.name = service.name := by
  obtain ⟨listed, plans, -, -, rfl⟩ := h
  rfl

theorem exists_told (service : Service) : ∃ offering, service.Told offering :=
  ⟨_, service.plans, collect service.plans, .refl _, .refl _, rfl⟩

/-- Services that differ in their plans are offered alike if their plans are. -/
theorem offering_inj {plans plans' : List (String × Plan)} :
    { service with plans }.offering = { service with plans := plans' }.offering ↔
      { service with plans }.offering.plans = { service with plans := plans' }.offering.plans := by
  simp [offering]

theorem perm_of_offering_eq {plans plans' : List (String × Plan)}
    (h : { service with plans }.offering = { service with plans := plans' }.offering) :
    (plans.map fun entry => entry.2.offering).Perm (plans'.map fun entry => entry.2.offering) := by
  have hsorted := List.Perm.of_eq (offering_inj.mp h)
  exact (List.mergeSort_perm _ _).symm.trans (hsorted.trans (List.mergeSort_perm _ _))

/-- What is told of a plan, with the key of the plan. -/
def tellUnder (entry : String × Plan) : String × PlanOffering := (entry.1, entry.2.offering)

/-- Whatever stays of plans that are alike is told in one way. -/
theorem PlansAlike.perm_collect (alike : service.PlansAlike) {listed listed' : List (String × Plan)}
    (h : listed.Perm service.plans) (h' : listed'.Perm service.plans) :
    ((collect listed).map fun entry => entry.2.offering).Perm
      ((collect listed').map fun entry => entry.2.offering) := by
  -- what is collected has distinct keys, so its members determine it up to order
  have hnodup : ∀ l : List (String × Plan), ((collect l).map tellUnder).Nodup := by
    intro l
    refine List.Nodup.of_map Prod.fst ?_
    rw [List.map_map]
    exact nodup_keys_collect l
  have hmem : ∀ {l : List (String × Plan)}, l.Perm service.plans →
      ∀ pair, pair ∈ (collect l).map tellUnder ↔ pair ∈ service.plans.map tellUnder := by
    intro l hl pair
    rw [List.mem_map, List.mem_map]
    constructor
    · rintro ⟨entry, hentry, rfl⟩
      exact ⟨entry, hl.mem_iff.mp (mem_of_mem_collect hentry), rfl⟩
    · rintro ⟨entry, hentry, rfl⟩
      obtain ⟨other, hother, hkey⟩ := exists_mem_collect (hl.mem_iff.mpr hentry)
      have hsame : other.2.offering = entry.2.offering :=
        alike other (hl.mem_iff.mp (mem_of_mem_collect hother)) entry hentry (.inl hkey)
      exact ⟨other, hother, Prod.ext hkey hsame⟩
  have hperm : ((collect listed).map tellUnder).Perm ((collect listed').map tellUnder) := by
    rw [List.perm_ext_iff_of_nodup (hnodup _) (hnodup _)]
    intro pair
    rw [hmem h, hmem h']
  have hsnd := hperm.map Prod.snd
  rwa [List.map_map, List.map_map] at hsnd

/-- A service whose plans of one name are alike is offered in one way, -/
theorem PlansAlike.told_unique (alike : service.PlansAlike) {offering other : Offering}
    (h : service.Told offering) (h' : service.Told other) : offering = other := by
  obtain ⟨listed, plans, hlisted, hplans, rfl⟩ := h
  obtain ⟨listed', plans', hlisted', hplans', rfl⟩ := h'
  have hperm : (plans.map fun entry => entry.2.offering).Perm
      (plans'.map fun entry => entry.2.offering) :=
    (hplans.map _).trans ((alike.perm_collect hlisted hlisted').trans (hplans'.map _).symm)
  rw [offering_inj]
  refine mergeSort_eq_of_perm PlanOffering.name hperm ?_
  simp only [List.forall_mem_map]
  intro a ha b hb hname
  have ha' := hlisted.mem_iff.mp (mem_of_mem_collect (hplans.mem_iff.mp ha))
  have hb' := hlisted.mem_iff.mp (mem_of_mem_collect (hplans.mem_iff.mp hb))
  exact alike a ha' b hb' (.inr hname)

/-- Of two plans under one key either one may stay. -/
theorem offering_eq_of_key_eq (h : ∀ offering other, service.Told offering → service.Told other →
      offering = other) {a b : String × Plan} (ha : a ∈ service.plans) (hb : b ∈ service.plans)
    (hkey : a.1 = b.1) : a.2.offering = b.2.offering := by
  by_cases hne : a = b
  · rw [hne]
  obtain ⟨rest, hfirst⟩ := exists_cons_cons_perm ha hb hne
  have hperm : (rest ++ [a] ++ [b]).Perm service.plans := by
    rw [List.append_assoc]
    exact List.perm_append_comm.trans hfirst
  have hswap : (rest ++ [b] ++ [a]).Perm service.plans := by
    rw [List.append_assoc]
    exact List.perm_append_comm.trans ((List.Perm.swap a b rest).trans hfirst)
  obtain ⟨before, after, hput⟩ := exists_upsert_eq a.1 (byId Prod.fst rest)
  have hlast : ∀ x y : String × Plan, x.1 = a.1 → y.1 = a.1 →
      collect (rest ++ [x] ++ [y]) = before.map Prod.snd ++ y :: after.map Prod.snd := by
    intro x y hx hy
    unfold collect
    rw [byId_append_singleton, byId_append_singleton, hx, hy, upsert_upsert, hput, List.map_append,
      List.map_cons]
  have hsame := perm_of_offering_eq (h _ _ ⟨_, _, hperm, .refl _, rfl⟩ ⟨_, _, hswap, .refl _, rfl⟩)
  rw [hlast a b rfl hkey.symm, hlast b a hkey.symm rfl, List.map_append, List.map_append,
    List.map_cons, List.map_cons] at hsame
  exact (head_eq_of_perm_middle hsame).symm

/-- and no other service is. -/
theorem told_unique_iff :
    (∀ offering other, service.Told offering → service.Told other → offering = other) ↔
      service.PlansAlike := by
  constructor
  · intro h
    have hkeys := fun a ha b hb => offering_eq_of_key_eq h (a := a) (b := b) ha hb
    have hperms : ∀ plans : List (String × Plan), plans.Perm (collect service.plans) →
        ((plans.map fun entry => entry.2.offering).mergeSort fun a b => a.name ≤ b.name) =
          ((collect service.plans).map fun entry => entry.2.offering).mergeSort
            fun a b => a.name ≤ b.name := by
      intro plans hplans
      exact offering_inj.mp (h _ _ ⟨_, _, .refl _, hplans, rfl⟩ ⟨_, _, .refl _, .refl _, rfl⟩)
    rw [forall_perm_mergeSort_eq_iff] at hperms
    rintro a ha b hb (hkey | hname)
    · exact hkeys a ha b hb hkey
    · obtain ⟨a', hstays, hkey⟩ := exists_mem_collect ha
      obtain ⟨b', hstays', hkey'⟩ := exists_mem_collect hb
      have hsame := hkeys a' (mem_of_mem_collect hstays) a ha hkey
      have hsame' := hkeys b' (mem_of_mem_collect hstays') b hb hkey'
      rw [← hsame, ← hsame']
      refine hperms a' hstays b' hstays' ?_
      rw [hsame, hsame']
      exact hname
  · exact fun alike _ _ h h' => alike.told_unique h h'

/-- The service with other plans. -/
def replan (plansOf : Service → List (String × Plan)) (service : Service) : Service :=
  { service with plans := plansOf service }

/-- The service with those of its plans that stay. -/
def collected : Service → Service := replan fun service => collect service.plans

end Service

/-! ## What catalogs offer -/

namespace Catalog

open Service (replan collected)

/-- The services `listed` are these in any order, with the plans of each in any order. -/
def Reordered (listed services : List Service) : Prop :=
  ∃ plansOf : Service → List (String × Plan),
    (∀ service ∈ services, (plansOf service).Perm service.plans) ∧
    listed.Perm (services.map (replan plansOf))

/-- The catalog is made of the services in any order, and it enumerates its entries in any order. -/
def Shows (services : List Service) (shown : Catalog) : Prop :=
  ∃ listed, Reordered listed services ∧ shown.Enumerates (ofList (listed.map collected))

/-- All catalogs of the services offer the same. -/
def Settled (services : List Service) : Prop :=
  ∀ shown shown', Shows services shown → Shows services shown' →
    shown.offerings = shown'.offerings

variable {services : List Service} {shown : Catalog}

theorem map_id_perm_of_reordered {listed : List Service} (h : Reordered listed services) :
    (listed.map Service.id).Perm (services.map Service.id) := by
  obtain ⟨plansOf, -, hperm⟩ := h
  have hids := hperm.map Service.id
  rwa [List.map_map] at hids

/-- Services that are put together in another order keep their distinct ids. -/
theorem nodup_map_id_collected {listed : List Service} (unique : (services.map Service.id).Nodup)
    (h : Reordered listed services) : ((listed.map collected).map Service.id).Nodup := by
  rw [List.map_map]
  exact (map_id_perm_of_reordered h).nodup_iff.mpr unique

/-- A catalog enumerates its services in any order, with the plans of each in any order. -/
theorem exists_enumerates_iff (unique : (services.map Service.id).Nodup) {l : List Service} :
    (∃ shown : Catalog, shown.Enumerates (ofList services) ∧ shown.services = l) ↔
      Reordered l services := by
  have hentries : (ofList services).entries = services.map fun service => (service.id, service) :=
    byId_eq_map unique
  constructor
  · rintro ⟨shown, ⟨plansOf, hplans, hperm⟩, rfl⟩
    rw [hentries] at hplans hperm
    refine ⟨fun service => plansOf (service.id, service), List.forall_mem_map.mp hplans, ?_⟩
    have hservices := hperm.map Prod.snd
    rwa [List.map_map, List.map_map] at hservices
  · rintro ⟨plansOf, hplans, hperm⟩
    refine ⟨⟨l.map fun service => (service.id, service)⟩,
      ⟨fun entry => plansOf entry.2, ?_, ?_⟩, ?_⟩
    · rw [hentries]
      exact List.forall_mem_map.mpr hplans
    · rw [hentries, List.map_map]
      have hentered := hperm.map fun service => (service.id, service)
      rwa [List.map_map] at hentered
    · unfold Catalog.services
      rw [List.map_map]
      exact List.map_id l

/-- A listing shows each service in one of the ways it can be offered, sorted by the names. -/
theorem Shows.exists_told (unique : (services.map Service.id).Nodup) (h : Shows services shown) :
    ∃ (told : Service → Offering) (l : List Service),
      (∀ service ∈ services, service.Told (told service)) ∧ l.Perm services ∧
      shown.offerings = (l.map told).mergeSort fun a b => a.name ≤ b.name := by
  obtain ⟨listed, reordered, henumerates⟩ := h
  obtain ⟨enumerated, henumerated, hshown⟩ :=
    (exists_enumerates_iff (nodup_map_id_collected unique reordered)).mp ⟨shown, henumerates, rfl⟩
  obtain ⟨plansOf, hplans, hlisted⟩ := reordered
  have hseen := hshown.trans ((hlisted.map collected).map (replan enumerated))
  rw [List.map_map, List.map_map] at hseen
  obtain ⟨l, heq, hl⟩ := (congrFun₂ (List.eq_map_comp_perm _) shown.services services).mpr hseen
  refine ⟨Service.offering ∘ replan enumerated ∘ collected ∘ replan plansOf, l,
    fun service hservice => ?_, hl, ?_⟩
  · have hlists : replan plansOf service ∈ listed :=
      hlisted.mem_iff.mpr (List.mem_map_of_mem hservice)
    exact ⟨plansOf service, _, hplans service hservice,
      henumerated _ (List.mem_map_of_mem hlists), rfl⟩
  · unfold offerings
    rw [heq, List.map_map]
    rfl

/-- Each such choice is shown by a listing. -/
theorem exists_shows (unique : (services.map Service.id).Nodup) {told : Service → Offering}
    (h : ∀ service ∈ services, service.Told (told service)) {l : List Service}
    (hl : l.Perm services) :
    ∃ shown, Shows services shown ∧
      shown.offerings = (l.map told).mergeSort fun a b => a.name ≤ b.name := by
  choose! plansOf plans hplansOf hplans htold using h
  let listed := services.map (replan plansOf)
  have reordered : Reordered listed services := ⟨plansOf, hplansOf, .refl _⟩
  -- a service that has been collected is known by its id
  have hknown : ∀ other ∈ listed.map collected, ∃ found : List (String × Plan),
      found.Perm other.plans ∧ ∀ service ∈ services, service.id = other.id →
        found = plans service := by
    simp only [listed, List.forall_mem_map]
    intro service hservice
    refine ⟨plans service, hplans service hservice, fun other hother hid => ?_⟩
    rw [List.inj_on_of_nodup_map unique hother hservice hid]
  choose! enumerated henumerated hfound using hknown
  have hseen : Reordered (l.map (replan plans)) (listed.map collected) := by
    refine ⟨enumerated, henumerated, ?_⟩
    rw [List.map_map, List.map_map]
    refine (hl.map _).trans (.of_eq (List.map_congr_left fun service hservice => ?_))
    have hlists : collected (replan plansOf service) ∈ listed.map collected :=
      List.mem_map_of_mem (List.mem_map_of_mem hservice)
    show { service with plans := plans service } =
      { service with plans := enumerated (collected (replan plansOf service)) }
    rw [hfound _ hlists service hservice rfl]
  obtain ⟨shown, henumerates, hservices⟩ :=
    (exists_enumerates_iff (nodup_map_id_collected unique reordered)).mpr hseen
  refine ⟨shown, ⟨listed, reordered, henumerates⟩, ?_⟩
  unfold offerings
  rw [hservices, List.map_map]
  refine congrArg (List.mergeSort · _) (List.map_congr_left fun service hservice => ?_)
  exact (htold service (hl.mem_iff.mp hservice)).symm

/-- The names of a listing do not depend on the order. -/
theorem Shows.names (unique : (services.map Service.id).Nodup) (h : Shows services shown) :
    shown.offerings.map Offering.name =
      (services.map Service.name).mergeSort fun a b => a ≤ b := by
  obtain ⟨told, l, htold, hl, hofferings⟩ := h.exists_told unique
  rw [hofferings]
  refine map_mergeSort_of_perm ?_
  rw [List.map_map]
  refine (hl.map _).trans (.of_eq (List.map_congr_left fun service hservice => ?_))
  exact (htold service hservice).name_eq

/-- Whatever else is told of the services, the offerings are the same only if one thing is told. -/
theorem Settled.told_unique (settled : Settled services)
    (unique : (services.map Service.id).Nodup) {service : Service}
    (hservice : service ∈ services) {offering other : Offering}
    (h : service.Told offering) (h' : service.Told other) : offering = other := by
  choose told htold using Service.exists_told
  have hupdate : ∀ o, service.Told o →
      ∀ s ∈ services, s.Told (Function.update told service o s) := by
    intro o ho s _
    by_cases hs : s = service
    · rw [hs, Function.update_self]
      exact ho
    · rw [Function.update_of_ne hs]
      exact htold s
  obtain ⟨shown, hshown, hofferings⟩ := exists_shows unique (hupdate offering h) (.refl services)
  obtain ⟨shown', hshown', hofferings'⟩ := exists_shows unique (hupdate other h') (.refl services)
  have hmem : offering ∈ shown'.offerings := by
    rw [← settled shown shown' hshown hshown', hofferings, List.mem_mergeSort, List.mem_map]
    exact ⟨service, hservice, Function.update_self ..⟩
  rw [hofferings', List.mem_mergeSort, List.mem_map] at hmem
  obtain ⟨s, hs, heq⟩ := hmem
  have hid : s.id = service.id := by
    rw [← (hupdate other h' s hs).id_eq, heq, h.id_eq]
  obtain rfl : s = service := List.inj_on_of_nodup_map unique hs hservice hid
  rw [← heq, Function.update_self]

/-- Where the offerings are settled, no two services share a name. -/
theorem Settled.nodup_names (settled : Settled services)
    (unique : (services.map Service.id).Nodup) : (services.map Service.name).Nodup := by
  choose told htold using Service.exists_told
  have hperms : ∀ l : List Service, l.Perm services →
      ((l.map told).mergeSort fun a b => a.name ≤ b.name) =
        (services.map told).mergeSort fun a b => a.name ≤ b.name := by
    intro l hl
    obtain ⟨shown, hshown, hofferings⟩ := exists_shows unique (fun s _ => htold s) hl
    obtain ⟨shown', hshown', hofferings'⟩ :=
      exists_shows unique (fun s _ => htold s) (.refl services)
    rw [← hofferings, ← hofferings']
    exact settled shown shown' hshown hshown'
  rw [forall_perm_mergeSort_eq_iff] at hperms
  refine List.Nodup.map_on ?_ unique.of_map
  intro a ha b hb hname
  have htells : told a = told b := by
    refine hperms a ha b hb ?_
    rw [(htold a).name_eq, (htold b).name_eq, hname]
  refine List.inj_on_of_nodup_map unique ha hb ?_
  rw [← (htold a).id_eq, ← (htold b).id_eq, htells]

/-- **The names always come out in one order. The offerings do so exactly if no two services have
one name, and plans of a service with one name, or under one key, are told alike.** -/
theorem offerings_settled_iff {services : List Service}
    (unique : (services.map Service.id).Nodup) :
    (∀ shown, Shows services shown → shown.offerings.map Offering.name =
      (services.map Service.name).mergeSort fun a b => a ≤ b) ∧
    (Settled services ↔
      (services.map Service.name).Nodup ∧ ∀ service ∈ services, service.PlansAlike) := by
  refine ⟨fun shown h => h.names unique, ?_, ?_⟩
  · intro settled
    refine ⟨settled.nodup_names unique, fun service hservice => ?_⟩
    rw [← Service.told_unique_iff]
    exact fun _ _ h h' => settled.told_unique unique hservice h h'
  · -- names that are distinct leave one order, and plans that are alike one offering each
    rintro ⟨distinct, alike⟩ shown shown' h h'
    obtain ⟨told, l, htold, hl, hofferings⟩ := h.exists_told unique
    obtain ⟨told', l', htold', hl', hofferings'⟩ := h'.exists_told unique
    have hsame : l'.map told' = l'.map told := by
      refine List.map_congr_left fun service hservice => ?_
      have hmem := hl'.mem_iff.mp hservice
      exact (alike service hmem).told_unique (htold' service hmem) (htold service hmem)
    rw [hofferings, hofferings', hsame]
    refine mergeSort_eq_of_perm Offering.name ((hl.trans hl'.symm).map told) ?_
    simp only [List.forall_mem_map]
    intro a ha b hb hname
    have ha' := hl.mem_iff.mp ha
    have hb' := hl.mem_iff.mp hb
    rw [(htold a ha').name_eq, (htold b hb').name_eq] at hname
    rw [List.inj_on_of_nodup_map distinct ha' hb' hname]

/-- A service with two plans of one name. -/
def sized : Service where
  id := "eth"
  name := "geth"
  description := ""
  tags := []
  displayName := ""
  plans := ["small", "large"].map fun size => (size, ⟨size, "dev", "", "geth", ["8545"]⟩)

/-- Two services with one name, and a service with two plans of one name, are on offer in more than
one way. -/
theorem twins_unsettled :
    (([twin "x", twin "y"]).map Service.id).Nodup ∧ ([sized].map Service.id).Nodup ∧
    (sized.plans.map Prod.fst).Nodup ∧
    (∃ shown shown', Shows [twin "x", twin "y"] shown ∧ Shows [twin "x", twin "y"] shown' ∧
      shown.offerings ≠ shown'.offerings) ∧
    ∃ shown shown', Shows [sized] shown ∧ Shows [sized] shown' ∧
      shown.offerings ≠ shown'.offerings := by
  have unique : (([twin "x", twin "y"]).map Service.id).Nodup := by decide
  have unique' : ([sized].map Service.id).Nodup := by decide
  refine ⟨unique, unique', by decide, ?_, ?_⟩
  · by_contra hsettled
    push Not at hsettled
    have distinct := ((offerings_settled_iff unique).2.mp hsettled).1
    exact absurd distinct (by decide)
  · by_contra hsettled
    push Not at hsettled
    have alike := ((offerings_settled_iff unique').2.mp hsettled).2 sized List.mem_cons_self
    have hsame := alike ("small", ⟨"small", "dev", "", "geth", ["8545"]⟩) (by simp [sized])
      ("large", ⟨"large", "dev", "", "geth", ["8545"]⟩) (by simp [sized]) (.inr rfl)
    exact absurd hsame (by decide)

end Catalog

end ChainBroker
