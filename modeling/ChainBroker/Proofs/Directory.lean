import ChainBroker.Proofs.Definition
import ChainBroker.Proofs.Offerings

/-!
# Which directories make up a catalog

The loader takes the definitions of a directory one after another and stops at the first one that it
cannot use.

1. A file defines a service if its bytes encode a text that does (`Defines`). The ids that are made
   up are taken to be apart from each other and from all that files give (`Fresh`).
2. Files are `Valid` if each of them defines a usable service and no two give one id; then all of
   these services are loaded. Otherwise one of the files offends after valid ones (`Offends`), and
   what comes behind it does not matter.
3. The files of a directory are the regular ones whose names end in `.json`, in the order of their
   names (`InPathOrder`).

`Catalog.load_exact` puts this together: which directories are accepted, what is found in their
catalogs, and what the others are refused for.
-/

namespace ChainBroker.Catalog

/-! ## Files -/

/-- The bytes encode a text that defines the service. -/
def Defines (bytes : Except OsError Bytes) (d : ServiceDefinition) : Prop :=
  ∃ text, bytes = .ok (Utf8.encode text) ∧
    Json.decode ServiceDefinition.reader (Utf8.ofText text) = .ok d

/-- A file holds at most one definition. -/
theorem Defines.unique {bytes : Except OsError Bytes} {d d' : ServiceDefinition}
    (h : Defines bytes d) (h' : Defines bytes d') : d = d' := by
  obtain ⟨text, rfl, hd⟩ := h
  obtain ⟨text', htext', hd'⟩ := h'
  rw [← Utf8.encode_inj.mp (Except.ok.inj htext'), hd] at hd'
  exact Except.ok.inj hd'

/-- A file is loaded if it holds a definition that can be used, with ids made up for what has
none. -/
theorem loadFile_eq_ok_iff {path : String} {freshIds : Nat → String}
    {bytes : Except OsError Bytes} (supply : ∀ d, Defines bytes d → Supply freshIds d.ids)
    {service : Service} :
    loadFile path freshIds bytes = .ok service ↔
      ∃ d, Defines bytes d ∧ d.Usable ∧ service = d.made freshIds := by
  constructor
  · intro h
    unfold loadFile at h
    split at h
    · cases h
    · next text htext =>
      split at h
      · cases h
      · next d hdecode =>
        have defines : Defines bytes d := ⟨text, textOf_eq_ok_iff.mp htext, hdecode⟩
        cases hservice : d.toService path freshIds with
        | error fault => simp [hservice, Except.mapError] at h
        | ok made =>
          rw [hservice] at h
          cases h
          exact ⟨d, defines, (ServiceDefinition.toService_eq_ok_iff (supply d defines)).mp hservice⟩
  · rintro ⟨d, defines, husable⟩
    have hservice : d.toService path freshIds = .ok service :=
      (ServiceDefinition.toService_eq_ok_iff (supply d defines)).mpr husable
    obtain ⟨text, htext, hdecode⟩ := defines
    unfold loadFile
    simp only [textOf_eq_ok_iff.mpr htext, hdecode, hservice, Except.mapError]

/-- A file and what comes of reading it, under its name. -/
abbrev NamedFile : Type := String × Except OsError Bytes

/-- The files define the services, in this order. -/
def Read (files : List NamedFile) (ds : List ServiceDefinition) : Prop :=
  List.Forall₂ (fun file d => Defines file.2 d) files ds

/-- The file at the place defines the service. -/
def DefinesAt (files : List NamedFile) (n : Nat) (d : ServiceDefinition) : Prop :=
  ∃ file, files[n]? = some file ∧ Defines file.2 d

/-- The ids that are made up differ from each other and from those that files give. -/
structure Fresh (freshIds : FreshIds) (files : List NamedFile) : Prop where
  /-- What is made up at two places differs. -/
  distinct : ∀ n k d m j d', DefinesAt files n d → d.ids[k]? = some none →
    DefinesAt files m d' → d'.ids[j]? = some none → freshIds n k = freshIds m j → n = m ∧ k = j
  /-- What is made up is not given. -/
  apart : ∀ n k d m d' id, DefinesAt files n d → d.ids[k]? = some none →
    DefinesAt files m d' → some id ∈ d'.ids → freshIds n k ≠ id

variable {freshIds : FreshIds} {files : List NamedFile} {ds : List ServiceDefinition}

/-- What comes later does not change what a file holds. -/
theorem DefinesAt.append {n : Nat} {d : ServiceDefinition} (h : DefinesAt files n d)
    (others : List NamedFile) : DefinesAt (files ++ others) n d := by
  obtain ⟨file, hfile, hd⟩ := h
  exact ⟨file, getElem?_append_of_eq_some hfile others, hd⟩

/-- Ids that are fresh among all files are fresh among the first ones. -/
theorem Fresh.left {others : List NamedFile} (h : Fresh freshIds (files ++ others)) :
    Fresh freshIds files where
  distinct n k d m j d' hd hk hd' hj :=
    h.distinct n k d m j d' (hd.append others) hk (hd'.append others) hj
  apart n k d m d' id hd hk hd' hid :=
    h.apart n k d m d' id (hd.append others) hk (hd'.append others) hid

/-- The ids within one file. -/
theorem Fresh.file (h : Fresh freshIds files) {n : Nat} {d : ServiceDefinition}
    (hd : DefinesAt files n d) : Supply (freshIds n) d.ids where
  distinct i j hi hj heq := (h.distinct n i d n j d hd hi hd hj heq).2
  apart i id hi hid := h.apart n i d n d id hd hi hd hid

/-- The definitions that were read are those that the files hold, each at its place. -/
theorem Read.definesAt_iff (h : Read files ds) {n : Nat} {d : ServiceDefinition} :
    DefinesAt files n d ↔ ds[n]? = some d := by
  unfold DefinesAt
  induction h generalizing n with
  | nil => simp
  | @cons file d' files ds hfile _ ih =>
    cases n with
    | succ n => simpa using ih
    | zero =>
      simp only [List.getElem?_cons_zero, Option.some.injEq, exists_eq_left']
      exact ⟨fun hd => hfile.unique hd, fun heq => heq ▸ hfile⟩

/-- The ids of the services. -/
theorem Fresh.services (h : Fresh freshIds files) (read : Read files ds) :
    Supply (fun n => freshIds n 0) (ds.map ServiceDefinition.id) := by
  have definesAt : ∀ {n o}, (ds.map ServiceDefinition.id)[n]? = some o →
      ∃ d, DefinesAt files n d ∧ d.id = o := by
    intro n o hn
    rw [List.getElem?_map, Option.map_eq_some_iff] at hn
    obtain ⟨d, hd, rfl⟩ := hn
    exact ⟨d, read.definesAt_iff.mpr hd, rfl⟩
  constructor
  · intro i j hi hj heq
    obtain ⟨d, hd, hid⟩ := definesAt hi
    obtain ⟨d', hd', hid'⟩ := definesAt hj
    exact (h.distinct i 0 d j 0 d' hd (congrArg some hid) hd' (congrArg some hid') heq).1
  · intro i id hi hid
    obtain ⟨j, hj⟩ := List.mem_iff_getElem?.mp hid
    obtain ⟨d, hd, hid⟩ := definesAt hi
    obtain ⟨d', hd', hid'⟩ := definesAt hj
    exact h.apart i 0 d j d' id hd (congrArg some hid) hd' (hid' ▸ List.mem_cons_self)

/-! ## Directories -/

section Files

variable {dir : String} {index : Nat} {services : List Service}

/-- The services of definitions, each with the fresh ids of its place. -/
def made (freshIds : FreshIds) (index : Nat) (ds : List ServiceDefinition) : List Service :=
  (ds.zipIdx index).map fun p => p.1.made (freshIds p.2)

/-- Files are loaded one by one if each of them holds a definition that can be used. -/
theorem map_loadFile_eq_iff
    (supply : ∀ p ∈ files.zipIdx index, ∀ d, Defines p.1.2 d → Supply (freshIds p.2) d.ids) :
    (files.zipIdx index).map (fun p => loadFile (joinPath dir p.1.1) (freshIds p.2) p.1.2) =
        services.map .ok ↔
      ∃ ds, Read files ds ∧ (∀ d ∈ ds, d.Usable) ∧ services = made freshIds index ds := by
  -- by induction on the files; the index goes with the ids that are made up
  induction files generalizing index services with
  | nil =>
    rw [eq_comm, List.zipIdx_nil, List.map_nil, List.map_eq_nil_iff]
    constructor
    · rintro rfl
      exact ⟨[], .nil, by simp, rfl⟩
    · rintro ⟨ds, read, -, rfl⟩
      cases read
      rfl
  | cons file files ih =>
    rw [List.zipIdx_cons, List.forall_mem_cons] at supply
    rw [List.zipIdx_cons, List.map_cons]
    constructor
    · intro h
      cases services with
      | nil => cases h
      | cons service services =>
        obtain ⟨hfile, hfiles⟩ := List.cons.inj h
        obtain ⟨d, hd, usable, rfl⟩ := (loadFile_eq_ok_iff supply.1).mp hfile
        obtain ⟨ds, hds, husable, rfl⟩ := (ih supply.2).mp hfiles
        exact ⟨d :: ds, .cons hd hds, List.forall_mem_cons.mpr ⟨usable, husable⟩, rfl⟩
    · rintro ⟨ds, read, usable, rfl⟩
      cases read with
      | @cons _ d _ ds hd hds =>
        rw [List.forall_mem_cons] at usable
        rw [(loadFile_eq_ok_iff supply.1).mpr ⟨d, hd, usable.1, rfl⟩,
          (ih supply.2).mpr ⟨ds, hds, usable.2, rfl⟩]
        rfl

/-- A service has the id of its definition, or else the one made up for its file. -/
theorem map_id_made :
    (made freshIds 0 ds).map Service.id =
      (ds.map ServiceDefinition.id).zipIdx.map fun p => p.1.getD (freshIds p.2 0) := by
  unfold made
  rw [List.zipIdx_map, List.map_map, List.map_map]
  rfl

/-- Ids that were made up clash with none, so two services have one id only if it is given twice. -/
theorem Fresh.nodup_made_iff (fresh : Fresh freshIds files) (read : Read files ds) :
    ((made freshIds 0 ds).map Service.id).Nodup ↔ (ds.filterMap ServiceDefinition.id).Nodup := by
  rw [map_id_made, (fresh.services read).nodup_iff, List.filterMap_map]
  rfl

/-- The files define usable services, no two of which are given one id. -/
structure Valid (files : List NamedFile) (ds : List ServiceDefinition) : Prop where
  /-- The files define the services. -/
  read : Read files ds
  /-- The services are usable. -/
  usable : ∀ d ∈ ds, d.Usable
  /-- No two services are given one id. -/
  distinct : (ds.filterMap ServiceDefinition.id).Nodup

/-- All files are loaded exactly if they are valid. -/
theorem loadFiles_eq_ok_iff (fresh : Fresh freshIds files) :
    loadFiles dir freshIds 0 [] files = .ok services ↔
      ∃ ds, Valid files ds ∧ services = made freshIds 0 ds := by
  have supply : ∀ p ∈ files.zipIdx, ∀ d, Defines p.1.2 d → Supply (freshIds p.2) d.ids :=
    fun p hp d hd => fresh.file ⟨p.1, List.mem_zipIdx_iff_getElem?.mp hp, hd⟩
  rw [loadFiles_eq_gather, gather_eq_ok_iff, map_loadFile_eq_iff supply]
  constructor
  · rintro ⟨⟨ds, read, usable, rfl⟩, hnodup⟩
    exact ⟨ds, ⟨read, usable, (fresh.nodup_made_iff read).mp hnodup⟩, rfl⟩
  · rintro ⟨ds, valid, rfl⟩
    have distinct := (fresh.nodup_made_iff valid.read).mpr valid.distinct
    exact ⟨⟨ds, valid.read, valid.usable, rfl⟩, distinct⟩

/-- What a file is refused for, after files that define the services. -/
inductive Offends (dir : String) (before : List ServiceDefinition) (file : NamedFile) :
    Failure → Prop where
  /-- It cannot be read. -/
  | unreadable {cause : OsError} (h : file.2 = .error cause) : Offends dir before file (.file cause)
  /-- It encodes no text. -/
  | notText {bytes : Bytes} (hbytes : file.2 = .ok bytes) (h : ∀ text, bytes ≠ Utf8.encode text) :
    Offends dir before file (.file .notUtf8)
  /-- Its text defines no service. -/
  | unparseable {text : String} {cause : Json.Fault} (htext : file.2 = .ok (Utf8.encode text))
      (h : Json.decode ServiceDefinition.reader (Utf8.ofText text) = .error cause) :
    Offends dir before file (CatalogFault.unparseable (joinPath dir file.1) cause).failure
  /-- The service that it defines is not usable. -/
  | unusable {d : ServiceDefinition} {fault : CatalogFault} (defines : Defines file.2 d)
      (h : d.Faulty (joinPath dir file.1) fault) : Offends dir before file fault.failure
  /-- The service that it defines is given the id of an earlier one. -/
  | duplicate {d : ServiceDefinition} {id : String} (defines : Defines file.2 d)
      (usable : d.Usable) (hid : d.id = some id)
      (given : some id ∈ before.map ServiceDefinition.id) :
    Offends dir before file (CatalogFault.duplicateService (joinPath dir file.1) id).failure

/-- Bytes that were read are refused only because they are no text. -/
theorem textOf_ok_eq_error {bytes : Bytes} {cause : OsError}
    (h : textOf (.ok bytes) = .error cause) :
    cause = .notUtf8 ∧ ∀ text, bytes ≠ Utf8.encode text := by
  rw [textOf] at h
  cases hdecode : Utf8.decode? bytes with
  | some text => simp [hdecode] at h
  | none =>
    simp only [hdecode] at h
    cases h
    refine ⟨rfl, fun text htext => ?_⟩
    rw [Utf8.decode?_eq_some_iff.mpr htext] at hdecode
    cases hdecode

/-- A file that is no text offends by that. -/
theorem offends_of_textOf_eq_error {file : NamedFile} {cause : OsError}
    (h : textOf file.2 = .error cause) : Offends dir ds file (.file cause) := by
  cases hbytes : file.2 with
  | error reason =>
    rw [hbytes] at h
    cases h
    exact .unreadable hbytes
  | ok bytes =>
    rw [hbytes] at h
    obtain ⟨rfl, hnone⟩ := textOf_ok_eq_error h
    exact .notText hbytes hnone

/-- Whatever a file is refused for, it offends by. -/
theorem offends_of_loadFile_eq_error {n : Nat} {file : NamedFile} {e : Failure}
    (supply : ∀ d, Defines file.2 d → Supply (freshIds n) d.ids)
    (h : loadFile (joinPath dir file.1) (freshIds n) file.2 = .error e) :
    Offends dir ds file e := by
  unfold loadFile at h
  split at h
  · next cause htext =>
    cases h
    exact offends_of_textOf_eq_error htext
  · next text htext =>
    split at h
    · next cause hdecode =>
      cases h
      exact .unparseable (textOf_eq_ok_iff.mp htext) hdecode
    · next d hdecode =>
      have defines : Defines file.2 d := ⟨text, textOf_eq_ok_iff.mp htext, hdecode⟩
      cases hservice : d.toService (joinPath dir file.1) (freshIds n) with
      | ok service => simp [hservice, Except.mapError] at h
      | error fault =>
        rw [hservice] at h
        cases h
        exact .unusable defines
          (ServiceDefinition.faulty_of_toService_eq_error (supply d defines) hservice)

/-- The files are refused for the first one that offends, whatever comes behind it. -/
theorem exists_of_loadFiles_eq_error (fresh : Fresh freshIds files) {e : Failure}
    (h : loadFiles dir freshIds 0 [] files = .error e) :
    ∃ before file after ds, files = before ++ file :: after ∧ Valid before ds ∧
      Offends dir ds file e ∧
      ∀ others, loadFiles dir freshIds 0 [] (before ++ file :: others) = .error e := by
  rw [loadFiles_eq_gather, gather_eq_error_iff] at h
  obtain ⟨before, file, after, services, rfl, hbefore, refused⟩ := h
  have independent : ∀ others,
      loadFiles dir freshIds 0 [] (before ++ file :: others) = .error e := by
    intro others
    rw [loadFiles_eq_gather, gather_eq_error_iff]
    exact ⟨before, file, others, services, rfl, hbefore, refused⟩
  rw [← loadFiles_eq_gather, loadFiles_eq_ok_iff fresh.left] at hbefore
  obtain ⟨ds, valid, rfl⟩ := hbefore
  refine ⟨before, file, after, ds, rfl, valid, ?_, independent⟩
  have place : (before ++ file :: after)[before.length]? = some file := by simp
  have supply : ∀ d, Defines file.2 d → Supply (freshIds (0 + before.length)) d.ids := by
    intro d hd
    rw [Nat.zero_add]
    exact fresh.file ⟨file, place, hd⟩
  cases refused with
  | unmade hfile => exact offends_of_loadFile_eq_error supply hfile
  | taken hfile hkey =>
    obtain ⟨d, hd, usable, rfl⟩ := (loadFile_eq_ok_iff supply).mp hfile
    -- the ids up to this file are apart as well, so the one that is taken has been given
    have read : Read (before ++ [file]) (ds ++ [d]) :=
      List.rel_append valid.read (.cons hd .nil)
    rw [List.append_cons] at fresh
    have keys := fresh.left.services read
    rw [List.map_append, List.map_singleton] at keys
    rw [map_id_made, Nat.zero_add] at hkey
    have hlength : (ds.map ServiceDefinition.id).length = before.length := by
      rw [List.length_map, valid.read.length_eq]
    obtain ⟨id, hid, given⟩ := keys.given_of_mem hlength hkey
    have hmade : (d.made (freshIds (0 + before.length))).id = id := by
      rw [ServiceDefinition.made, hid, Option.getD_some]
    rw [hmade]
    exact .duplicate hd usable hid given

/-- The catalog holds what the files define, under the ids that they give or else the fresh ones of
their places. -/
structure Holds (freshIds : FreshIds) (files : List NamedFile) (catalog : Catalog) : Prop where
  /-- There are as many services as files. -/
  size : catalog.size = files.length
  /-- The service that a file defines is found, with as many plans. -/
  service : ∀ n d, DefinesAt files n d → ∃ plans,
    catalog.service (d.id.getD (freshIds n 0)) =
      .ok
        { id := d.id.getD (freshIds n 0), name := d.name, description := d.description
          tags := d.tags, displayName := d.displayName, plans } ∧
      plans.length = d.plans.length
  /-- Each of its plans is found, with the ports in the order of the file. -/
  plan : ∀ n d k (plan : PlanDefinition), DefinesAt files n d → d.plans[k]? = some plan →
    catalog.plan (d.id.getD (freshIds n 0)) (plan.id.getD (freshIds n (k + 1))) =
      .ok
        { id := plan.id.getD (freshIds n (k + 1)), name := plan.name
          description := plan.description, image := plan.image, ports := plan.ports }

/-- A catalog made of the definitions holds what they say. -/
theorem Keyed.holds {catalog : Catalog} (keyed : catalog.Keyed) (read : Read files ds)
    (entries : catalog.entries = (made freshIds 0 ds).map fun service => (service.id, service)) :
    Holds freshIds files catalog := by
  have mem : ∀ {n d}, DefinesAt files n d →
      (d.id.getD (freshIds n 0), d.made (freshIds n)) ∈ catalog.entries := by
    intro n d hd
    rw [entries, made, List.map_map]
    exact List.mem_map_of_mem
      (List.mk_mem_zipIdx_iff_getElem?.mpr (read.definesAt_iff.mp hd))
  constructor
  · rw [size, entries, List.length_map, made, List.length_map, List.length_zipIdx, read.length_eq]
  · intro n d hd
    refine ⟨_, keyed.service_eq_ok_iff.mpr (mem hd), ?_⟩
    rw [PlanDefinition.entries, List.length_map, List.length_zipIdx]
  · intro n d k plan hd hplan
    refine keyed.plan_eq_ok_iff.mpr ⟨_, mem hd, ?_⟩
    exact List.mem_map_of_mem (f := fun p => p.1.entry (freshIds n (p.2 + 1)))
      (List.mk_mem_zipIdx_iff_getElem?.mpr hplan)

end Files

/-! ## Listings -/

/-- The listing holds the regular file, and its name ends in `.json` after something else. -/
def Lists (l : Listing) (file : NamedFile) : Prop :=
  ⟨file.1, .file file.2⟩ ∈ l ∧ ∃ stem, stem ≠ "" ∧ file.1 = stem ++ ".json"

/-- The name of a definition has something in front of its ending. -/
theorem isDefinitionName_iff {name : String} :
    isDefinitionName name = true ↔ ∃ stem, stem ≠ "" ∧ name = stem ++ ".json" := by
  unfold isDefinitionName
  constructor
  · intro h
    split at h
    · next c rest hreverse =>
      refine ⟨String.ofList (c :: rest).reverse, by simp, ?_⟩
      rw [← String.toList_inj, String.toList_append, String.toList_ofList,
        ← List.reverse_reverse name.toList, hreverse]
      simp
    · cases h
  · rintro ⟨stem, hstem, rfl⟩
    obtain ⟨c, rest, hrest⟩ := List.exists_cons_of_ne_nil
      (show stem.toList.reverse ≠ [] by simpa using hstem)
    rw [String.toList_append, List.reverse_append, hrest]
    rfl

/-- The file behind an entry, if it is one that defines a service. -/
def definition? (entry : DirectoryEntry) : Option NamedFile :=
  match entry.content with
  | .file bytes => if isDefinitionName entry.name then some (entry.name, bytes) else none
  | .other => none

theorem definition?_eq_some_iff {entry : DirectoryEntry} {file : NamedFile} :
    definition? entry = some file ↔
      entry = ⟨file.1, .file file.2⟩ ∧ ∃ stem, stem ≠ "" ∧ file.1 = stem ++ ".json" := by
  obtain ⟨name, content⟩ := entry
  obtain ⟨name', bytes'⟩ := file
  cases content with
  | other => exact ⟨nofun, nofun⟩
  | file bytes =>
    rw [definition?, Option.ite_none_right_eq_some, isDefinitionName_iff]
    simp only [Option.some.injEq, Prod.mk.injEq, DirectoryEntry.mk.injEq, EntryContent.file.injEq]
    constructor
    · rintro ⟨hname, rfl, rfl⟩
      exact ⟨⟨rfl, rfl⟩, hname⟩
    · rintro ⟨⟨rfl, rfl⟩, hname⟩
      exact ⟨hname, rfl, rfl⟩

/-- The definitions of the listing, in another order. -/
theorem definitionFiles_perm (l : Listing) : (definitionFiles l).Perm (l.filterMap definition?) :=
  List.mergeSort_perm _ _

/-- The definitions of a directory are the files with such names. -/
theorem mem_definitionFiles_iff {l : Listing} {file : NamedFile} :
    file ∈ definitionFiles l ↔ Lists l file := by
  rw [(definitionFiles_perm l).mem_iff, List.mem_filterMap]
  simp only [definition?_eq_some_iff]
  constructor
  · rintro ⟨_, hmem, rfl, hname⟩
    exact ⟨hmem, hname⟩
  · rintro ⟨hmem, hname⟩
    exact ⟨_, hmem, rfl, hname⟩

/-- The files are those that the listing holds, in the order of the bytes of their names. -/
structure InPathOrder (l : Listing) (files : List NamedFile) : Prop where
  /-- The files are those of the listing. -/
  mem : ∀ file, file ∈ files ↔ Lists l file
  /-- None of them occurs twice if no name does in the listing. -/
  once : (l.map DirectoryEntry.name).Nodup → (files.map Prod.fst).Nodup
  /-- The names are in the order of their bytes. -/
  ordered : files.Pairwise fun a b => Utf8.encode a.1 ≤ Utf8.encode b.1

/-- They are gone through in the order of their paths. -/
theorem definitionFiles_inPathOrder (l : Listing) : InPathOrder l (definitionFiles l) where
  mem file := mem_definitionFiles_iff
  once h := by
    rw [((definitionFiles_perm l).map Prod.fst).nodup_iff, List.Nodup, List.pairwise_map,
      List.pairwise_filterMap]
    rw [List.Nodup, List.pairwise_map] at h
    refine h.imp fun {entry other} hne file hfile file' hfile' heq => hne ?_
    rw [(definition?_eq_some_iff.mp hfile).1, (definition?_eq_some_iff.mp hfile').1]
    exact heq
  ordered := Utf8.pairwise_mergeSort Prod.fst _

/-! ## Loading -/

section Load

variable {dir : String} {listing : Except OsError Listing} {l : Listing}

/-- The files are loaded if a directory is named, can be listed and holds definitions. -/
theorem load_cases (dir : String) (freshIds : FreshIds) (listing : Except OsError Listing) :
    (dir = "" ∧ load dir freshIds listing = .error CatalogFault.noDirectory.failure) ∨
    (∃ cause, dir ≠ "" ∧ listing = .error cause ∧
      load dir freshIds listing = .error (CatalogFault.unlistable dir cause).failure) ∨
    (∃ l, dir ≠ "" ∧ listing = .ok l ∧ definitionFiles l = [] ∧
      load dir freshIds listing = .error (CatalogFault.empty dir).failure) ∨
    ∃ l, dir ≠ "" ∧ listing = .ok l ∧ definitionFiles l ≠ [] ∧
      load dir freshIds listing =
        (loadFiles dir freshIds 0 [] (definitionFiles l)).map Catalog.ofList := by
  by_cases hdir : dir = ""
  · refine .inl ⟨hdir, ?_⟩
    unfold load
    rw [if_pos hdir]
  · refine .inr ?_
    cases listing with
    | error cause => exact .inl ⟨cause, hdir, rfl, by rw [load, if_neg hdir]⟩
    | ok l =>
      refine .inr ?_
      rw [load, if_neg hdir]
      cases hfiles : definitionFiles l with
      | nil => exact .inl ⟨l, hdir, rfl, hfiles, rfl⟩
      | cons file files => exact .inr ⟨l, hdir, rfl, by simp [hfiles], by rw [hfiles]⟩

/-- A directory with definitions is loaded file by file. -/
theorem load_eq (hdir : dir ≠ "") (hfiles : definitionFiles l ≠ []) :
    load dir freshIds (.ok l) =
      (loadFiles dir freshIds 0 [] (definitionFiles l)).map Catalog.ofList := by
  rcases load_cases dir freshIds (.ok l) with h | ⟨cause, -, h, -⟩ | ⟨l', -, h, hnil, -⟩ | h
  · exact absurd h.1 hdir
  · cases h
  · cases h
    exact absurd hnil hfiles
  · obtain ⟨l', -, h, -, hload⟩ := h
    cases h
    exact hload

/-- What is loaded is made of definitions that are valid. -/
theorem load_eq_ok_iff (fresh : ∀ l, listing = .ok l → Fresh freshIds (definitionFiles l))
    {catalog : Catalog} :
    load dir freshIds listing = .ok catalog ↔
      dir ≠ "" ∧ ∃ l, listing = .ok l ∧ definitionFiles l ≠ [] ∧
        ∃ ds, Valid (definitionFiles l) ds ∧ catalog = .ofList (made freshIds 0 ds) := by
  constructor
  · intro h
    rcases load_cases dir freshIds listing with
      ⟨-, hload⟩ | ⟨_, -, -, hload⟩ | ⟨_, -, -, -, hload⟩ | ⟨l, hdir, hlisting, hfiles, hload⟩
    · rw [hload] at h
      cases h
    · rw [hload] at h
      cases h
    · rw [hload] at h
      cases h
    · rw [hload] at h
      cases hservices : loadFiles dir freshIds 0 [] (definitionFiles l) with
      | error e =>
        rw [hservices] at h
        cases h
      | ok services =>
        rw [hservices] at h
        cases h
        obtain ⟨ds, valid, rfl⟩ := (loadFiles_eq_ok_iff (fresh l hlisting)).mp hservices
        exact ⟨hdir, l, hlisting, hfiles, ds, valid, rfl⟩
  · rintro ⟨hdir, l, rfl, hfiles, ds, valid, rfl⟩
    rw [load_eq hdir hfiles, (loadFiles_eq_ok_iff (fresh l rfl)).mpr ⟨ds, valid, rfl⟩]
    rfl

/-- Why the loader fails. -/
inductive Reported (dir : String) (freshIds : FreshIds) (listing : Except OsError Listing) :
    Failure → Prop where
  /-- No directory is named. -/
  | noDirectory (h : dir = "") : Reported dir freshIds listing CatalogFault.noDirectory.failure
  /-- The directory cannot be listed. -/
  | unlistable {cause : OsError} (hdir : dir ≠ "") (h : listing = .error cause) :
    Reported dir freshIds listing (CatalogFault.unlistable dir cause).failure
  /-- There are no definitions. -/
  | empty {l : Listing} (hdir : dir ≠ "") (hlisting : listing = .ok l)
      (h : ∀ file, ¬Lists l file) :
    Reported dir freshIds listing (CatalogFault.empty dir).failure
  /-- A file offends while those before it do not, and whatever comes behind it. -/
  | offending {l : Listing} {before after : List NamedFile} {file : NamedFile}
      {ds : List ServiceDefinition} {e : Failure} (hdir : dir ≠ "") (hlisting : listing = .ok l)
      (files : definitionFiles l = before ++ file :: after) (valid : Valid before ds)
      (offends : Offends dir ds file e)
      (independent : ∀ l' others, definitionFiles l' = before ++ file :: others →
        load dir freshIds (.ok l') = .error e) :
    Reported dir freshIds listing e

/-- Whatever loading fails with is reported of the first file that offends, or of the directory. -/
theorem reported_of_load_eq_error
    (fresh : ∀ l, listing = .ok l → Fresh freshIds (definitionFiles l)) {e : Failure}
    (h : load dir freshIds listing = .error e) : Reported dir freshIds listing e := by
  -- there is no directory, or no listing, or no definition, or one of them offends
  rcases load_cases dir freshIds listing with
    ⟨hdir, hload⟩ | ⟨cause, hdir, hlisting, hload⟩ | ⟨l, hdir, hlisting, hfiles, hload⟩ |
      ⟨l, hdir, hlisting, -, hload⟩
  · rw [hload] at h
    cases h
    exact .noDirectory hdir
  · rw [hload] at h
    cases h
    exact .unlistable hdir hlisting
  · rw [hload] at h
    cases h
    refine .empty hdir hlisting fun file hfile => ?_
    rw [← mem_definitionFiles_iff, hfiles] at hfile
    cases hfile
  · rw [hload] at h
    cases hfiles : loadFiles dir freshIds 0 [] (definitionFiles l) with
    | ok services =>
      rw [hfiles] at h
      cases h
    | error reason =>
      rw [hfiles] at h
      cases h
      obtain ⟨before, file, after, ds, hsplit, valid, offends, independent⟩ :=
        exists_of_loadFiles_eq_error (fresh l hlisting) hfiles
      refine .offending hdir hlisting hsplit valid offends fun l' others hothers => ?_
      rw [load_eq hdir (by simp [hothers]), hothers, independent others]
      rfl

/-- **The loader accepts exactly the directories of valid definitions.** Its catalog holds what
these define, and otherwise the first offending file in the order of the names is reported. -/
theorem load_exact (dir : String) (freshIds : FreshIds) (listing : Except OsError Listing)
    (fresh : ∀ l, listing = .ok l → Fresh freshIds (definitionFiles l)) :
    ((∃ catalog, load dir freshIds listing = .ok catalog) ↔
      dir ≠ "" ∧ ∃ l, listing = .ok l ∧ (∃ file, Lists l file) ∧
        ∃ ds, Valid (definitionFiles l) ds) ∧
    (∀ l catalog, listing = .ok l → load dir freshIds listing = .ok catalog →
      Holds freshIds (definitionFiles l) catalog) ∧
    (∀ e, load dir freshIds listing = .error e → Reported dir freshIds listing e) ∧
    ∀ l, InPathOrder l (definitionFiles l) := by
  refine ⟨?_, ?_, ?_, definitionFiles_inPathOrder⟩
  · have hlists : ∀ l : Listing, (∃ file, Lists l file) ↔ definitionFiles l ≠ [] := by
      intro l
      rw [← List.isEmpty_eq_false_iff, List.isEmpty_eq_false_iff_exists_mem]
      exact exists_congr fun file => mem_definitionFiles_iff.symm
    simp only [load_eq_ok_iff fresh, hlists]
    constructor
    · rintro ⟨catalog, hdir, l, hlisting, hfiles, ds, valid, -⟩
      exact ⟨hdir, l, hlisting, hfiles, ds, valid⟩
    · rintro ⟨hdir, l, hlisting, hfiles, ds, valid⟩
      exact ⟨_, hdir, l, hlisting, hfiles, ds, valid, rfl⟩
  · rintro l catalog rfl h
    have keyed : catalog.Keyed := (Made.loaded h).keyed
    obtain ⟨-, l', heq, -, ds, valid, rfl⟩ := (load_eq_ok_iff fresh).mp h
    cases heq
    have distinct := ((fresh l rfl).nodup_made_iff valid.read).mpr valid.distinct
    exact keyed.holds valid.read (byId_eq_map distinct)
  · intro e h
    exact reported_of_load_eq_error fresh h

end Load

/-! ## A directory with ids that are left out -/

/-- A definition without ids. -/
def plainDefinition : String :=
  "\x7b\"name\":\"node\",\"plans\":[\x7b\"name\":\"free\",\"image\":\"node\",\"ports\":[\"80\"]\x7d]\x7d"

/-- What the definition says. -/
def plainRead : ServiceDefinition where
  id := none
  name := "node"
  description := ""
  displayName := ""
  tags := []
  plans := [{ id := none, name := "free", description := "", image := "node", ports := ["80"] }]

/-- A directory with two definitions, and with a directory whose name is that of a definition. -/
def mixedListing : Listing :=
  [⟨"eth.json", .file (.ok (Utf8.encode ethDefinition))⟩, ⟨"old.json", .other⟩,
    ⟨"plain.json", .file (.ok (Utf8.encode plainDefinition))⟩]

/-- Ids that tell the places within a file apart. -/
def numbered : FreshIds := fun _ k => String.ofList (List.replicate k 'x')

/-- What is no definition is left aside. -/
theorem definitionFiles_mixedListing :
    definitionFiles mixedListing =
      [("eth.json", .ok (Utf8.encode ethDefinition)),
        ("plain.json", .ok (Utf8.encode plainDefinition))] :=
  List.mergeSort_of_pairwise (by simp; decide)

theorem decode_plainDefinition :
    Json.decode ServiceDefinition.reader (Utf8.ofText plainDefinition) = .ok plainRead := by
  decide +kernel

theorem read_mixedListing : Read (definitionFiles mixedListing) [ethRead, plainRead] := by
  rw [definitionFiles_mixedListing]
  exact .cons ⟨_, rfl, decode_ethDefinition⟩ (.cons ⟨_, rfl, decode_plainDefinition⟩ .nil)

/-- Both definitions can be used, one with its ids and one without. -/
theorem valid_mixedListing : Valid (definitionFiles mixedListing) [ethRead, plainRead] where
  read := read_mixedListing
  usable := by decide +kernel
  distinct := by decide

theorem fresh_mixedListing : Fresh numbered (definitionFiles mixedListing) := by
  -- ids are left out by the second definition and given by the first one
  have left : ∀ {n k : Nat} {d}, DefinesAt (definitionFiles mixedListing) n d →
      d.ids[k]? = some none → n = 1 := by
    intro n k d hd hk
    rw [read_mixedListing.definesAt_iff] at hd
    rcases n with _ | _ | n
    · cases hd
      rcases k with _ | _ | k <;> cases hk
    · rfl
    · cases hd
  have given : ∀ {n d id}, DefinesAt (definitionFiles mixedListing) n d → some id ∈ d.ids →
      id = "eth" ∨ id = "dev" := by
    intro n d id hd hid
    rw [read_mixedListing.definesAt_iff] at hd
    rcases n with _ | _ | n
    · cases hd
      simpa [ServiceDefinition.ids, ethRead] using hid
    · cases hd
      simp [ServiceDefinition.ids, plainRead] at hid
    · cases hd
  constructor
  · intro n k d m j d' hd hk hd' hj heq
    refine ⟨(left hd hk).trans (left hd' hj).symm, ?_⟩
    simpa [numbered] using congrArg String.length heq
  · intro n k d m d' id hd hk hd' hid heq
    have chars : ∀ c ∈ id.toList, c = 'x' := by
      rw [← heq, numbered, String.toList_ofList]
      exact fun c hc => List.eq_of_mem_replicate hc
    rcases given hd' hid with rfl | rfl <;> simp at chars

/-- A directory with definitions and other things is loaded. -/
theorem mixedListing_load :
    (∀ l, (.ok mixedListing : Except OsError Listing) = .ok l →
      Fresh numbered (definitionFiles l)) ∧
    ∃ catalog, load "services" numbered (.ok mixedListing) = .ok catalog ∧
      Holds numbered (definitionFiles mixedListing) catalog := by
  have fresh : ∀ l, (.ok mixedListing : Except OsError Listing) = .ok l →
      Fresh numbered (definitionFiles l) := by
    rintro l ⟨⟩
    exact fresh_mixedListing
  obtain ⟨accepts, holds, -⟩ := load_exact "services" numbered (.ok mixedListing) fresh
  have lists : Lists mixedListing ("eth.json", .ok (Utf8.encode ethDefinition)) := by
    rw [← mem_definitionFiles_iff, definitionFiles_mixedListing]
    exact List.mem_cons_self
  obtain ⟨catalog, hcatalog⟩ :=
    accepts.mpr ⟨by decide, _, rfl, ⟨_, lists⟩, _, valid_mixedListing⟩
  exact ⟨fresh, catalog, hcatalog, holds _ catalog rfl hcatalog⟩

end ChainBroker.Catalog
