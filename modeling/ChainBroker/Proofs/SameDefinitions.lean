import ChainBroker.Proofs.Directory

/-!
# Directories with the same definitions

The loader sees nothing of a directory but its definitions: two listings with the same definitions
give the same files in the same order, whatever else they hold and in whatever order they do
(`definitionFiles_eq_of_same`). So the same is loaded, or the same fault is reported (`load_same`).
-/

namespace ChainBroker

namespace Catalog

variable {dir : String} {l l' : Listing}

theorem mem_filterMap_definition?_iff {file : NamedFile} :
    file ∈ l.filterMap definition? ↔ Lists l file := by
  rw [← (definitionFiles_perm l).mem_iff]
  exact mem_definitionFiles_iff

theorem nodup_filterMap_definition? (unique : (l.map DirectoryEntry.name).Nodup) :
    ((l.filterMap definition?).map Prod.fst).Nodup := by
  have honce := (definitionFiles_inPathOrder l).once unique
  rwa [((definitionFiles_perm l).map Prod.fst).nodup_iff] at honce

theorem definitionFiles_eq_of_same (unique : (l.map DirectoryEntry.name).Nodup)
    (unique' : (l'.map DirectoryEntry.name).Nodup) (same : ∀ file, Lists l file ↔ Lists l' file) :
    definitionFiles l = definitionFiles l' := by
  have hnames := nodup_filterMap_definition? unique
  have hperm : (l.filterMap definition?).Perm (l'.filterMap definition?) := by
    rw [List.perm_ext_iff_of_nodup hnames.of_map (nodup_filterMap_definition? unique').of_map]
    intro file
    rw [mem_filterMap_definition?_iff, mem_filterMap_definition?_iff]
    exact same file
  -- no two files have one name, so there is one order of the names
  have hsort := mergeSort_eq_of_perm Prod.fst hperm
    fun file hfile other hother hname => List.inj_on_of_nodup_map hnames hfile hother hname
  exact hsort

/-- **What is loaded depends on the definitions only.** Of what else a directory holds, and of the
order in which it is enumerated, nothing is seen. Ids may be made up in any way that goes by the
definitions, such as one after the other. -/
theorem load_same (dir : String) (fresh : List NamedFile → FreshIds) {l l' : Listing}
    (unique : (l.map DirectoryEntry.name).Nodup) (unique' : (l'.map DirectoryEntry.name).Nodup)
    (same : ∀ file, Lists l file ↔ Lists l' file) :
    load dir (fresh (definitionFiles l)) (.ok l) =
      load dir (fresh (definitionFiles l')) (.ok l') := by
  have hfiles : definitionFiles l = definitionFiles l' :=
    definitionFiles_eq_of_same unique unique' same
  simp only [load, hfiles]

/-- The definitions of `mixedListing` in the opposite order, among other things. -/
def crowdedListing : Listing :=
  [⟨"plain.json", .file (.ok (Utf8.encode plainDefinition))⟩, ⟨".json", .file (.ok [])⟩,
    ⟨"notes.txt", .file (.error .permissionDenied)⟩, ⟨"archive.json", .other⟩,
    ⟨"eth.json", .file (.ok (Utf8.encode ethDefinition))⟩]

theorem lists_mixedListing_iff (file : NamedFile) :
    Lists mixedListing file ↔ Lists crowdedListing file := by
  have hhidden : ¬isDefinitionName ".json" = true := by decide
  have hnotes : ¬isDefinitionName "notes.txt" = true := by decide
  obtain ⟨name, bytes⟩ := file
  unfold Lists
  rw [← isDefinitionName_iff, and_congr_left_iff]
  intro hname
  have hne : name ≠ ".json" ∧ name ≠ "notes.txt" := by
    constructor <;> rintro rfl
    · exact hhidden hname
    · exact hnotes hname
  simp [mixedListing, crowdedListing, hne.1, hne.2, or_comm]

theorem mixedListing_load_same :
    (mixedListing.map DirectoryEntry.name).Nodup ∧
    (crowdedListing.map DirectoryEntry.name).Nodup ∧
    (∀ file, Lists mixedListing file ↔ Lists crowdedListing file) ∧
    load "services" numbered (.ok mixedListing) =
      load "services" numbered (.ok crowdedListing) := by
  have unique : (mixedListing.map DirectoryEntry.name).Nodup := by decide
  have unique' : (crowdedListing.map DirectoryEntry.name).Nodup := by decide
  exact ⟨unique, unique', lists_mixedListing_iff,
    load_same "services" (fun _ => numbered) unique unique' lists_mixedListing_iff⟩

end Catalog

end ChainBroker
