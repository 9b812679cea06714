import ChainBroker.Proofs.Directory

/-!
# Faults that name their file

A loader that fails for one of its files should say which one it is.

1. Every fault of a file holds its path (`CatalogFault.names`), and the faults of a service and of
   its plans are all of this kind (`ServiceDefinition.path?_of_toService`).
2. So a file that encodes a text is named. One that encodes none is not: it is a failure of the
   machine, without a path (`Catalog.names_or_notText_of_loadFile`).
3. If the loader fails then one file is the first that breaks the catalog, and it is named exactly
   if it encodes a text (`Catalog.load_names_iff`).
-/

namespace ChainBroker

/-- The failure is one of the set-up, and its text holds the path. -/
def Failure.Names (e : Failure) (path : String) : Prop :=
  (∃ reason, e = .catalog reason) ∧ e.kind = .configuration ∧ path.toList <:+: e.message.toList

/-- The file that a fault is about. -/
def CatalogFault.path? : CatalogFault → Option String
  | .unparseable path _ | .noName path | .noPlans path _ | .badPlan path _ _ _
  | .duplicatePlan path _ | .duplicateService path _ => some path
  | .noDirectory | .unlistable _ _ | .empty _ => none

theorem toList_infix_append (start path rest : String) :
    path.toList <:+: (start ++ path ++ rest).toList := by
  rw [String.toList_append, String.toList_append]
  exact List.infix_append start.toList path.toList rest.toList

theorem CatalogFault.exists_message {fault : CatalogFault} {path : String}
    (h : fault.path? = some path) : ∃ start rest, fault.message = start ++ path ++ rest := by
  cases fault with
  | noDirectory | unlistable | empty => cases h
  | unparseable _ cause =>
    cases h
    exact ⟨"Error parsing service file ", ": " ++ cause.message, String.append_assoc⟩
  | noName =>
    cases h
    exact ⟨"service in ", " has no name", rfl⟩
  | noPlans _ service =>
    cases h
    exact ⟨"service " ++ service ++ " in ", " has no plans", rfl⟩
  | badPlan _ service plan fault =>
    cases h
    exact ⟨"plan " ++ plan ++ " of service " ++ service ++ " in ", fault.message, rfl⟩
  | duplicatePlan _ id =>
    cases h
    exact ⟨"duplicate plan id " ++ id ++ " in ", "", String.append_empty.symm⟩
  | duplicateService _ id =>
    cases h
    exact ⟨"duplicate service id " ++ id ++ " in ", "", String.append_empty.symm⟩

theorem CatalogFault.names {fault : CatalogFault} {path : String} (h : fault.path? = some path) :
    fault.failure.Names path := by
  obtain ⟨start, rest, hmessage⟩ := exists_message h
  refine ⟨⟨_, rfl⟩, rfl, ?_⟩
  have hwords : fault.failure.message = "Catalog error: " ++ fault.message := rfl
  rw [hwords, hmessage, ← String.append_assoc, ← String.append_assoc]
  exact toList_infix_append _ _ _

/-! ## Faults of services -/

theorem path?_of_plansOf {path service : String} {freshIds : Nat → String}
    {ds : List PlanDefinition} {fault : CatalogFault}
    (h : plansOf path service freshIds 0 [] ds = .error fault) : fault.path? = some path := by
  rw [plansOf_eq_gather, gather_eq_error_iff] at h
  obtain ⟨before, d, after, made, -, -, refused⟩ := h
  cases refused with
  | taken => rfl
  | unmade hmake =>
    rw [PlanDefinition.make] at hmake
    cases hfault : d.fault? with
    | none => simp [hfault] at hmake
    | some reason =>
      rw [hfault] at hmake
      cases hmake
      rfl

theorem ServiceDefinition.path?_of_toService {path : String} {freshIds : Nat → String}
    {d : ServiceDefinition} {fault : CatalogFault}
    (h : d.toService path freshIds = .error fault) : fault.path? = some path := by
  unfold toService at h
  split at h
  · cases h
    rfl
  · split at h
    · cases h
      rfl
    · split at h
      · next reported hplans =>
        cases h
        exact path?_of_plansOf hplans
      · cases h

/-! ## Files -/

namespace Catalog

/-- The bytes are those of a text. -/
def EncodesText (bytes : Except OsError Bytes) : Prop :=
  ∃ text, bytes = .ok (Utf8.encode text)

variable {dir path : String} {e : Failure}

/-- A file that is refused is named if it encodes a text. -/
theorem names_or_notText_of_loadFile {freshIds : Nat → String} {bytes : Bytes}
    (h : loadFile path freshIds (.ok bytes) = .error e) :
    EncodesText (.ok bytes) ∧ e.Names path ∨ ¬EncodesText (.ok bytes) ∧ e = .file .notUtf8 := by
  unfold loadFile at h
  split at h
  · next cause htext =>
    cases h
    obtain ⟨rfl, hnone⟩ := textOf_ok_eq_error htext
    refine .inr ⟨?_, rfl⟩
    rintro ⟨text, hbytes⟩
    exact hnone text (Except.ok.inj hbytes)
  · next text htext =>
    refine .inl ⟨⟨text, textOf_eq_ok_iff.mp htext⟩, ?_⟩
    split at h
    · cases h
      exact CatalogFault.names rfl
    · next d _ =>
      cases hservice : d.toService path freshIds with
      | ok service => simp [hservice, Except.mapError] at h
      | error fault =>
        rw [hservice] at h
        cases h
        exact CatalogFault.names (ServiceDefinition.path?_of_toService hservice)

theorem encodesText_of_loadFile {freshIds : Nat → String} {bytes : Except OsError Bytes}
    {service : Service} (h : loadFile path freshIds bytes = .ok service) : EncodesText bytes := by
  unfold loadFile at h
  split at h
  · cases h
  · next text htext => exact ⟨text, textOf_eq_ok_iff.mp htext⟩

/-- The files before this one make up a catalog, and with this one they do not. -/
structure Breaks (dir : String) (freshIds : FreshIds) (before : List NamedFile) (file : NamedFile)
    (e : Failure) : Prop where
  loaded : ∃ services, loadFiles dir freshIds 0 [] before = .ok services
  refused : loadFiles dir freshIds 0 [] (before ++ [file]) = .error e

variable {freshIds : FreshIds} {files : List NamedFile}

/-- Some file is the first that breaks the catalog. -/
theorem exists_breaks (h : loadFiles dir freshIds 0 [] files = .error e) :
    ∃ before file after, files = before ++ file :: after ∧ Breaks dir freshIds before file e := by
  rw [loadFiles_eq_gather, gather_eq_error_iff] at h
  obtain ⟨before, file, after, services, rfl, hbefore, refused⟩ := h
  refine ⟨before, file, after, rfl, ⟨services, ?_⟩, ?_⟩
  · rw [loadFiles_eq_gather]
    exact hbefore
  · rw [loadFiles_eq_gather, gather_eq_error_iff]
    exact ⟨before, file, [], services, rfl, hbefore, refused⟩

theorem Breaks.names_or_notText {before : List NamedFile} {name : String} {bytes : Bytes}
    (h : Breaks dir freshIds before (name, .ok bytes) e) :
    EncodesText (.ok bytes) ∧ e.Names (joinPath dir name) ∨
      ¬EncodesText (.ok bytes) ∧ e = .file .notUtf8 := by
  obtain ⟨⟨services, hbefore⟩, hrefused⟩ := h
  rw [loadFiles_eq_gather] at hbefore hrefused
  rw [gather_append, hbefore] at hrefused
  -- what is refused behind the files before is this one
  simp only [Except.bind, gather] at hrefused
  split at hrefused
  · next reason hfile =>
    cases hrefused
    exact names_or_notText_of_loadFile hfile
  · next service hfile =>
    split at hrefused
    · cases hrefused
      exact .inl ⟨encodesText_of_loadFile hfile, CatalogFault.names rfl⟩
    · cases hrefused

/-- **A loader that fails names the file, unless that encodes no text.** The file is the first one
that breaks the catalog, and all of them can be read. -/
theorem load_names_iff {l : Listing} (named : dir ≠ "") (holds : ∃ file, Lists l file)
    (readable : ∀ file, Lists l file → ∃ bytes, file.2 = .ok bytes)
    (h : load dir freshIds (.ok l) = .error e) :
    ∃ before file after, definitionFiles l = before ++ file :: after ∧
      Breaks dir freshIds before file e ∧
      (e.Names (joinPath dir file.1) ↔ EncodesText file.2) ∧
      (e = .file .notUtf8 ↔ ¬EncodesText file.2) := by
  have hfiles : definitionFiles l ≠ [] := by
    obtain ⟨file, hfile⟩ := holds
    exact List.ne_nil_of_mem (mem_definitionFiles_iff.mpr hfile)
  rw [load_eq named hfiles] at h
  cases hload : loadFiles dir freshIds 0 [] (definitionFiles l) with
  | ok services =>
    rw [hload] at h
    cases h
  | error reason =>
    rw [hload] at h
    cases h
    obtain ⟨before, ⟨name, content⟩, after, hsplit, breaks⟩ := exists_breaks hload
    have hmem : (name, content) ∈ definitionFiles l := by
      rw [hsplit]
      exact List.mem_append_right _ List.mem_cons_self
    obtain ⟨bytes, rfl⟩ : ∃ bytes, content = .ok bytes :=
      readable _ (mem_definitionFiles_iff.mp hmem)
    refine ⟨before, _, after, hsplit, breaks, ?_⟩
    -- the text of a file that is none cannot be blamed on a path
    rcases breaks.names_or_notText with ⟨htext, hnames⟩ | ⟨htext, rfl⟩
    · refine ⟨iff_of_true hnames htext, iff_of_false ?_ (not_not_intro htext)⟩
      rintro rfl
      cases hnames.2.1
    · refine ⟨iff_of_false ?_ htext, iff_of_true rfl htext⟩
      rintro ⟨-, hkind, -⟩
      cases hkind

/-- A directory with a definition that is no text. -/
def garbledListing : Listing := [⟨"bad.json", .file (.ok [0xFF])⟩]

theorem definitionFiles_garbledListing :
    definitionFiles garbledListing = [("bad.json", .ok [0xFF])] := by
  have hdefines : isDefinitionName "bad.json" = true := by decide
  simp [definitionFiles, garbledListing, hdefines]

theorem load_garbledListing :
    load "services" numbered (.ok garbledListing) = .error (.file .notUtf8) := by
  have hdecode : textOf (.ok [0xFF]) = .error .notUtf8 := by decide
  rw [load_eq (by decide) (by simp [definitionFiles_garbledListing]),
    definitionFiles_garbledListing]
  simp [loadFiles, loadFile, hdecode, Except.map]

/-- The only file there is offends, and its path is not told. -/
theorem garbledListing_unnamed :
    "services" ≠ "" ∧ (∃ file, Lists garbledListing file) ∧
    (∀ file, Lists garbledListing file → ∃ bytes, file.2 = .ok bytes) ∧
    load "services" numbered (.ok garbledListing) = .error (.file .notUtf8) ∧
    Breaks "services" numbered [] ("bad.json", .ok [0xFF]) (.file .notUtf8) ∧
    ¬(Failure.file .notUtf8).Names (joinPath "services" "bad.json") := by
  have hnamed : "services" ≠ "" := by decide
  have hlists : ∀ file, Lists garbledListing file ↔ file = ("bad.json", .ok [0xFF]) := by
    intro file
    rw [← mem_definitionFiles_iff, definitionFiles_garbledListing, List.mem_singleton]
  have hreadable : ∀ file, Lists garbledListing file → ∃ bytes, file.2 = .ok bytes := by
    intro file hfile
    rw [(hlists file).mp hfile]
    exact ⟨_, rfl⟩
  have hholds : ∃ file, Lists garbledListing file := ⟨_, (hlists _).mpr rfl⟩
  obtain ⟨before, file, after, hsplit, breaks, hnames, hnotText⟩ :=
    load_names_iff hnamed hholds hreadable load_garbledListing
  rw [definitionFiles_garbledListing] at hsplit
  obtain ⟨rfl, rfl, rfl⟩ : before = [] ∧ file = ("bad.json", .ok [0xFF]) ∧ after = [] := by
    cases before with
    | nil => simpa [eq_comm] using hsplit
    | cons first before => simp at hsplit
  have hbytes := hnotText.mp rfl
  exact ⟨hnamed, hholds, hreadable, load_garbledListing, breaks, fun h => hbytes (hnames.mp h)⟩

end Catalog
end ChainBroker
