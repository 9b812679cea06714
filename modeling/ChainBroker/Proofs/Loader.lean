import ChainBroker.Catalog.Loader
import ChainBroker.Proofs.Gathering
import ChainBroker.Proofs.Port
import ChainBroker.Proofs.Table
import ChainBroker.Proofs.Utf8
import Mathlib.Data.List.Induction

/-!
# What the loader accepts

The checks of the loader are made file by file and plan by plan, by loops that gather values under
distinct ids, and what is read is put together only afterwards. What all of them establish is that
the catalog can be run.

* `Stored id P` says of services or plans that each of them stands under its own id and has the
  property `P`. It is kept by everything that the loader does with them.
* `plansOf_eq_gather` and `Catalog.loadFiles_eq_gather`: the loops gather plans and services.
* `Catalog.Runnable` is the property of catalogs, made of those of services and of plans.
* `Catalog.runnable_of_load`: what the loader accepts is runnable.
-/

namespace ChainBroker

/-! ## Values under their ids -/

/-- Each value stands under its own id, each id once, and each value has the property. -/
structure Stored {α : Type} (id : α → String) (P : α → Prop) (entries : List (String × α)) :
    Prop where
  /-- Every value stands under its own id. -/
  own : ∀ entry ∈ entries, entry.1 = id entry.2
  /-- No id occurs twice. -/
  unique : (entries.map Prod.fst).Nodup
  /-- Every value has the property. -/
  each : ∀ entry ∈ entries, P entry.2

namespace Stored

variable {α : Type} {id : α → String} {P : α → Prop} {entries : List (String × α)} {a : α}

theorem mem_upsert {key : String} {entry : String × α} (h : entry ∈ upsert key a entries) :
    entry = (key, a) ∨ entry ∈ entries := by
  induction entries with
  | nil => exact .inl (List.mem_singleton.mp h)
  | cons first rest ih =>
    unfold upsert at h
    split at h
    · rcases List.mem_cons.mp h with h | h
      · exact .inl h
      · exact .inr (List.mem_cons_of_mem _ h)
    · rcases List.mem_cons.mp h with h | h
      · exact .inr (h ▸ List.mem_cons_self)
      · exact (ih h).imp_right (List.mem_cons_of_mem _)

/-- The ids stay as they are, or the new one comes at the end. -/
theorem map_fst_upsert (key : String) (a : α) (entries : List (String × α)) :
    (upsert key a entries).map Prod.fst =
      if key ∈ entries.map Prod.fst then entries.map Prod.fst
      else entries.map Prod.fst ++ [key] := by
  induction entries with
  | nil => rfl
  | cons first rest ih =>
    unfold upsert
    by_cases h : first.1 = key
    · rw [if_pos h, List.map_cons, List.map_cons, h, if_pos List.mem_cons_self]
    · rw [if_neg h, List.map_cons, List.map_cons, ih]
      by_cases hmem : key ∈ rest.map Prod.fst
      · rw [if_pos hmem, if_pos (List.mem_cons_of_mem _ hmem)]
      · rw [if_neg hmem, if_neg, List.cons_append]
        intro hcons
        rcases List.mem_cons.mp hcons with hkey | hkey
        · exact h hkey.symm
        · exact hmem hkey

theorem nil : Stored id P [] := ⟨by simp, .nil, by simp⟩

/-- What is found under a key has this key. -/
theorem of_lookup (h : Stored id P entries) {key : String} (ha : entries.lookup key = some a) :
    id a = key ∧ P a := by
  have hmem := mem_of_lookup_eq_some ha
  exact ⟨(h.own _ hmem).symm, h.each _ hmem⟩

/-- What is stored is found. -/
theorem lookup_eq_some_iff (h : Stored id P entries) {key : String} :
    entries.lookup key = some a ↔ (key, a) ∈ entries :=
  ⟨mem_of_lookup_eq_some, lookup_eq_some_of_mem h.unique⟩

theorem mono {Q : α → Prop} (h : Stored id P entries) (himp : ∀ a, P a → Q a) :
    Stored id Q entries :=
  ⟨h.own, h.unique, fun entry hentry => himp _ (h.each entry hentry)⟩

/-- The order of the entries does not matter. -/
theorem perm (h : Stored id P entries) {others : List (String × α)} (hperm : others.Perm entries) :
    Stored id P others where
  own entry hentry := h.own entry (hperm.mem_iff.mp hentry)
  unique := (hperm.map Prod.fst).nodup_iff.mpr h.unique
  each entry hentry := h.each entry (hperm.mem_iff.mp hentry)

/-- A value is put in the place of the one of its id, or at the end. -/
theorem upsert (h : Stored id P entries) (ha : P a) : Stored id P (upsert (id a) a entries) where
  own entry hentry := by
    rcases mem_upsert hentry with rfl | hentry
    · rfl
    · exact h.own entry hentry
  unique := by
    rw [map_fst_upsert]
    split
    · exact h.unique
    · next hnew =>
      rw [← List.concat_eq_append]
      exact h.unique.concat hnew
  each entry hentry := by
    rcases mem_upsert hentry with rfl | hentry
    · exact ha
    · exact h.each entry hentry

/-- However much is stored, it stands under its keys. -/
theorem foldl_upsert (l : List α) (h : Stored id P entries) (hl : ∀ a ∈ l, P a) :
    Stored id P (l.foldl (fun entries a => ChainBroker.upsert (id a) a entries) entries) := by
  induction l generalizing entries with
  | nil => exact h
  | cons a l ih =>
    rw [List.forall_mem_cons] at hl
    exact ih (h.upsert hl.1) hl.2

theorem byId {l : List α} (hl : ∀ a ∈ l, P a) : Stored id P (byId id l) :=
  foldl_upsert l nil hl

end Stored

/-- A new key comes last. -/
theorem upsert_eq_append {α : Type} {key : String} {entries : List (String × α)} (a : α)
    (hkey : key ∉ entries.map Prod.fst) : upsert key a entries = entries ++ [(key, a)] := by
  induction entries with
  | nil => rfl
  | cons entry entries ih =>
    rw [List.map_cons, List.mem_cons, not_or] at hkey
    rw [upsert, if_neg (Ne.symm hkey.1), ih hkey.2, List.cons_append]

theorem byId_append_singleton {α : Type} (id : α → String) (l : List α) (a : α) :
    byId id (l ++ [a]) = upsert (id a) a (byId id l) := by
  unfold byId
  rw [List.foldl_append]
  rfl

/-- Values of distinct ids all stay. -/
theorem byId_eq_map {α : Type} {id : α → String} {l : List α} (h : (l.map id).Nodup) :
    byId id l = l.map fun a => (id a, a) := by
  -- the last value has a new id, so it is put at the end
  induction l using List.reverseRecOn with
  | nil => rfl
  | append_singleton l a ih =>
    rw [List.map_append, List.map_singleton, List.nodup_append] at h
    rw [byId_append_singleton, ih h.1, List.map_append, upsert_eq_append, List.map_singleton]
    rw [List.map_map]
    exact fun hmem => h.2.2 _ hmem _ (List.mem_singleton.mpr rfl) rfl

theorem upsert_ne_nil {α : Type} (key : String) (a : α) (entries : List (String × α)) :
    upsert key a entries ≠ [] := by
  cases entries with
  | nil => simp [upsert]
  | cons entry rest =>
    unfold upsert
    split <;> simp

theorem byId_ne_nil {α : Type} (id : α → String) {l : List α} (hl : l ≠ []) : byId id l ≠ [] := by
  -- the last value is put in by an upsert
  rw [← List.dropLast_concat_getLast hl, byId_append_singleton]
  exact upsert_ne_nil _ _ _

/-! ## Catalogs that can be run -/

/-- An image and ports, all of which are ports. -/
structure Plan.Runnable (plan : Plan) : Prop where
  /-- The image is not blank. -/
  image : ∃ c ∈ plan.image.toList, Text.isBlank c = false
  /-- There is a port. -/
  ports : plan.ports ≠ []
  /-- Every text of a port is one. -/
  parse : ∀ spec ∈ plan.ports, ∃ port, Port.parse spec = .ok port

/-- A service with a name and with plans that can be run. -/
structure Service.Runnable (service : Service) : Prop where
  /-- The name is not blank. -/
  name : ∃ c ∈ service.name.toList, Text.isBlank c = false
  /-- There is a plan. -/
  plans : service.plans ≠ []
  /-- The plans stand under their ids, and can be run. -/
  stored : Stored Plan.id Plan.Runnable service.plans

/-- A catalog with services that can be run. -/
structure Catalog.Runnable (catalog : Catalog) : Prop where
  /-- There is a service. -/
  services : catalog.entries ≠ []
  /-- The services stand under their ids, and can be run. -/
  stored : Stored Service.id Service.Runnable catalog.entries

theorem isBlankText_eq_false_iff {s : String} :
    Text.isBlankText s = false ↔ ∃ c ∈ s.toList, Text.isBlank c = false := by
  unfold Text.isBlankText
  rw [List.all_eq_false]
  simp

/-- The plan that a look-up finds can be run, and has the id that was looked for. -/
theorem Catalog.Runnable.plan {catalog : Catalog} (h : catalog.Runnable)
    {serviceId planId : String} {plan : Plan} (lookup : catalog.plan serviceId planId = .ok plan) :
    plan.id = planId ∧ plan.Runnable := by
  unfold Catalog.plan Catalog.service at lookup
  cases hservice : catalog.entries.lookup serviceId with
  | none => simp [hservice] at lookup
  | some service =>
    have hrunnable : service.Runnable := (h.stored.of_lookup hservice).2
    simp only [hservice] at lookup
    unfold Service.plan at lookup
    cases hplan : service.plans.lookup planId with
    | none => simp [hplan] at lookup
    | some found =>
      simp only [hplan] at lookup
      cases lookup
      exact hrunnable.stored.of_lookup hplan

/-- The ports of a plan that can be run, of which there is a first one. -/
theorem Plan.Runnable.parseAll {plan : Plan} (h : plan.Runnable) :
    ∃ first rest, Port.parseAll plan.ports = .ok (first :: rest) := by
  obtain ⟨ports, hports⟩ := Port.exists_parseAll_iff.mpr h.parse
  cases ports with
  | cons first rest => exact ⟨first, rest, hports⟩
  | nil =>
    rw [Port.parseAll_eq_ok_iff, List.map_nil, List.map_eq_nil_iff] at hports
    exact absurd hports h.ports

/-! ## From definitions to the catalog -/

theorem PlanDefinition.runnable_of_fault? {d : PlanDefinition} (h : d.fault? = none)
    (freshId : String) : (d.toPlan freshId).Runnable := by
  unfold fault? at h
  split at h
  · cases h
  · next himage =>
    split at h
    · cases h
    · next hports =>
      cases hparse : Port.parseAll d.ports with
      | error e => simp [hparse] at h
      | ok ports =>
        exact
          { image := isBlankText_eq_false_iff.mp (Bool.eq_false_iff.mpr himage)
            ports := hports
            parse := Port.exists_parseAll_iff.mp ⟨ports, hparse⟩ }

/-- The plan under its id. -/
def PlanDefinition.entry (d : PlanDefinition) (freshId : String) : String × Plan :=
  (d.id.getD freshId, d.toPlan freshId)

/-- The plan under its id, unless it has a fault. -/
def PlanDefinition.make (path service : String) (freshIds : Nat → String) (index : Nat)
    (d : PlanDefinition) : Except CatalogFault (String × Plan) :=
  match d.fault? with
  | some fault => .error (.badPlan path service d.name fault)
  | none => .ok (d.entry (freshIds index))

section Plans

variable {path service : String} {freshIds : Nat → String} {index : Nat}
  {seen plans : List (String × Plan)} {ds : List PlanDefinition}

/-- A plan is made of its definition if this has no fault. -/
theorem PlanDefinition.make_eq_ok_iff {d : PlanDefinition} {plan : String × Plan} :
    d.make path service freshIds index = .ok plan ↔
      d.fault? = none ∧ plan = d.entry (freshIds index) := by
  rw [make.eq_def]
  cases d.fault? with
  | some fault => exact ⟨nofun, nofun⟩
  | none => rw [Except.ok.injEq, eq_comm, and_iff_right rfl]

theorem isSome_lookup_iff {α : Type} {key : String} {entries : List (String × α)} :
    (entries.lookup key).isSome ↔ key ∈ entries.map Prod.fst := by
  rw [List.lookup_isSome_iff, List.mem_map]
  exact exists_congr fun entry => and_congr_right' (beq_iff_eq.trans eq_comm)

/-- The plans are gathered under their ids. -/
theorem plansOf_eq_gather :
    plansOf path service freshIds index seen ds =
      gather (PlanDefinition.make path service freshIds) Prod.fst
        (fun _ id => .duplicatePlan path id) index seen ds := by
  induction ds generalizing index seen with
  | nil => rfl
  | cons d ds ih =>
    rw [plansOf, gather, PlanDefinition.make]
    cases d.fault? with
    | some fault => rfl
    | none => exact if_congr isSome_lookup_iff rfl ih

/-- The plans of a service are stored under their ids, and none of them is lost. -/
theorem plansOf_stored (h : plansOf path service freshIds 0 [] ds = .ok plans) :
    Stored Plan.id Plan.Runnable plans ∧ plans.length = ds.length := by
  rw [plansOf_eq_gather, gather_eq_ok_iff] at h
  obtain ⟨hmade, unique⟩ := h
  have made : ∀ entry ∈ plans, ∃ (d : PlanDefinition) (freshId : String),
      d.fault? = none ∧ entry = d.entry freshId := by
    intro entry hentry
    obtain ⟨p, -, hp⟩ := exists_of_map_eq_map_ok hmade hentry
    exact ⟨p.1, freshIds p.2, PlanDefinition.make_eq_ok_iff.mp hp⟩
  refine ⟨⟨?_, unique, ?_⟩, by simpa using (congrArg List.length hmade).symm⟩
  · intro entry hentry
    obtain ⟨d, freshId, -, rfl⟩ := made entry hentry
    rfl
  · intro entry hentry
    obtain ⟨d, freshId, hfault, rfl⟩ := made entry hentry
    exact PlanDefinition.runnable_of_fault? hfault freshId

end Plans

/-- The services that are made can be run. -/
theorem ServiceDefinition.runnable_of_toService {path : String} {freshIds : Nat → String}
    {d : ServiceDefinition} {service : Service} (h : d.toService path freshIds = .ok service) :
    service.Runnable := by
  unfold toService at h
  split at h
  · cases h
  · next hname =>
    split at h
    · cases h
    · next hplans =>
      split at h
      · cases h
      · next plans hplansOf =>
        cases h
        obtain ⟨hstored, hlength⟩ := plansOf_stored hplansOf
        refine ⟨isBlankText_eq_false_iff.mp (Bool.eq_false_iff.mpr hname), ?_, hstored⟩
        intro hnil
        have hempty : d.plans.length = 0 := by
          rw [show plans = [] from hnil] at hlength
          simpa using hlength.symm
        exact hplans (List.length_eq_zero_iff.mp hempty)

namespace Catalog

variable {dir : String} {freshIds : FreshIds}

/-- A file is read if it can be, and holds a text. -/
theorem textOf_eq_ok_iff {bytes : Except OsError Bytes} {text : String} :
    textOf bytes = .ok text ↔ bytes = .ok (Utf8.encode text) := by
  cases bytes with
  | error cause => simp [textOf]
  | ok bytes =>
    rw [Except.ok.injEq, ← Utf8.decode?_eq_some_iff]
    cases hread : Utf8.decode? bytes <;> simp [textOf, hread]

/-- The service of a file can be run, -/
theorem runnable_of_loadFile {path : String} {freshIds : Nat → String}
    {bytes : Except OsError Bytes} {service : Service}
    (h : loadFile path freshIds bytes = .ok service) : service.Runnable := by
  unfold loadFile at h
  split at h
  · cases h
  · split at h
    · cases h
    · next definition _ =>
      cases hservice : definition.toService path freshIds with
      | error fault => simp [hservice, Except.mapError] at h
      | ok service' =>
        rw [hservice] at h
        cases h
        exact ServiceDefinition.runnable_of_toService hservice

/-- The services of the files are gathered under their ids. -/
theorem loadFiles_eq_gather {freshIds : FreshIds} {index : Nat} {seen : List Service}
    {files : List (String × Except OsError Bytes)} :
    loadFiles dir freshIds index seen files =
      gather (fun n file => loadFile (joinPath dir file.1) (freshIds n) file.2) Service.id
        (fun file id => (CatalogFault.duplicateService (joinPath dir file.1) id).failure)
        index seen files := by
  induction files generalizing index seen with
  | nil => rfl
  | cons file files ih =>
    rw [loadFiles, gather]
    cases loadFile (joinPath dir file.1) (freshIds index) file.2 with
    | error e => rfl
    | ok service =>
      refine if_congr ?_ rfl ih
      rw [List.any_eq_true, List.mem_map]
      exact exists_congr fun other => and_congr_right' beq_iff_eq

/-- and so can those of all files, one for each. -/
theorem runnable_of_loadFiles {services : List Service}
    {files : List (String × Except OsError Bytes)}
    (h : loadFiles dir freshIds 0 [] files = .ok services) :
    (∀ service ∈ services, service.Runnable) ∧ services.length = files.length := by
  rw [loadFiles_eq_gather, gather_eq_ok_iff] at h
  refine ⟨fun service hservice => ?_, by simpa using (congrArg List.length h.1).symm⟩
  obtain ⟨p, -, hp⟩ := exists_of_map_eq_map_ok h.1 hservice
  exact runnable_of_loadFile hp

/-- What the loader accepts can be run. -/
theorem runnable_of_load {listing : Except OsError Listing} {catalog : Catalog}
    (h : load dir freshIds listing = .ok catalog) : catalog.Runnable := by
  unfold load at h
  split at h
  · cases h
  · split at h
    · cases h
    · split at h
      · cases h
      · next listing _ hfiles =>
        cases hload : loadFiles dir freshIds 0 [] (definitionFiles listing) with
        | error e =>
          rw [hload] at h
          cases h
        | ok services =>
          rw [hload] at h
          cases h
          obtain ⟨hrunnable, hlength⟩ := runnable_of_loadFiles hload
          refine ⟨byId_ne_nil _ fun hnil => hfiles ?_, Stored.byId hrunnable⟩
          rw [hnil] at hlength
          exact List.length_eq_zero_iff.mp (by simpa using hlength.symm)

/-! ## A directory with one service -/

/-- A directory with one file has a catalog with one service. -/
theorem load_single {dir name text : String} {freshIds : FreshIds} {d : ServiceDefinition}
    {service : Service} (named : dir ≠ "") (defines : isDefinitionName name = true)
    (read : Json.decode ServiceDefinition.reader (Utf8.ofText text) = .ok d)
    (made : d.toService (joinPath dir name) (freshIds 0) = .ok service) :
    load dir freshIds (.ok [⟨name, .file (.ok (Utf8.encode text))⟩]) =
      .ok ⟨[(service.id, service)]⟩ := by
  have hfiles : definitionFiles [⟨name, .file (.ok (Utf8.encode text))⟩] =
      [(name, .ok (Utf8.encode text))] := by
    simp [definitionFiles, defines]
  have htext : textOf (.ok (Utf8.encode text)) = .ok text := textOf_eq_ok_iff.mpr rfl
  have hfile : loadFile (joinPath dir name) (freshIds 0) (.ok (Utf8.encode text)) =
      .ok service := by
    simp [loadFile, htext, read, made, Except.mapError]
  unfold load
  rw [if_neg named]
  simp [hfiles, loadFiles, hfile, Except.map, ofList, byId, upsert]

/-- The text of a definition, with two ports that are not in their canonical spelling. -/
def ethDefinition : String :=
  "\x7b\"id\":\"eth\",\"name\":\"geth\",\"plans\":[\x7b\"id\":\"dev\",\"name\":\"dev\"," ++
    "\"image\":\"nimak/geth\",\"ports\":[\" +08545\",\"30303/UDP\"]\x7d]\x7d"

/-- The plan of the definition. -/
def ethPlan : Plan where
  id := "dev"
  name := "dev"
  description := ""
  image := "nimak/geth"
  ports := [" +08545", "30303/UDP"]

/-- The first port of the plan. -/
def ethPort : Port := { number := 8545, protocol := .tcp }

/-- The ports of the plan. -/
def ethPorts : List Port := [ethPort, { number := 30303, protocol := .udp }]

theorem parseAll_ethPlan : Port.parseAll ethPlan.ports = .ok ethPorts := by decide +kernel

/-- The catalog of the definition. -/
def ethCatalog : Catalog where
  entries :=
    [("eth",
      { id := "eth", name := "geth", description := "", tags := [], displayName := ""
        plans := [("dev", ethPlan)] })]

/-- A directory with nothing but the definition. -/
def ethListing : Listing := [⟨"eth.json", .file (.ok (Utf8.encode ethDefinition))⟩]

/-- What the definition says. -/
def ethRead : ServiceDefinition where
  id := some "eth"
  name := "geth"
  description := ""
  displayName := ""
  tags := []
  plans :=
    [{ id := some "dev", name := "dev", description := "", image := "nimak/geth"
       ports := [" +08545", "30303/UDP"] }]

theorem decode_ethDefinition :
    Json.decode ServiceDefinition.reader (Utf8.ofText ethDefinition) = .ok ethRead := by
  decide +kernel

/-- What the definition says when its plan has other ports. -/
def ethReadWith (ports : List String) : ServiceDefinition :=
  { ethRead with plans := [⟨some "dev", "dev", "", "nimak/geth", ports⟩] }

/-- Only the ports of the plan have to be read. -/
theorem toService_of_ports {ports : List String} {first : Port} {rest : List Port}
    (parsed : Port.parseAll ports = .ok (first :: rest)) (path : String) :
    (ethReadWith ports).toService path (fun _ => "") =
      .ok
        { id := "eth", name := "geth", description := "", tags := [], displayName := ""
          plans := [("dev", { ethPlan with ports })] } := by
  have hports : ports ≠ [] := by
    rintro rfl
    cases parsed
  have hfault : PlanDefinition.fault? ⟨some "dev", "dev", "", "nimak/geth", ports⟩ = none := by
    have himage : ¬Text.isBlankText "nimak/geth" = true := by decide
    unfold PlanDefinition.fault?
    rw [if_neg himage, if_neg hports, parsed]
  have hgeth : ¬Text.isBlankText "geth" = true := by decide
  have hname : ¬Text.isBlankText (ethReadWith ports).name = true := hgeth
  have hplans : (ethReadWith ports).plans ≠ [] := List.cons_ne_nil _ _
  unfold ServiceDefinition.toService
  rw [if_neg hname, if_neg hplans]
  simp [ethReadWith, ethRead, plansOf, hfault, PlanDefinition.toPlan, ethPlan]

/-- The directory is loaded as the catalog of its definition. -/
theorem load_eth : load "services" (fun _ _ => "") (.ok ethListing) = .ok ethCatalog := by
  have hnamed : "services" ≠ "" := by decide
  have hdefines : isDefinitionName "eth.json" = true := by decide
  exact load_single hnamed hdefines decode_ethDefinition (toService_of_ports parseAll_ethPlan _)

end Catalog

end ChainBroker
