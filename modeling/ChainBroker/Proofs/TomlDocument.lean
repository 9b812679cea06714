import ChainBroker.Toml.Read
import Mathlib.Data.List.Infix

/-!
# The names that a document gives

A document gives the members of its table piece by piece, by keys and by headers. Every piece starts
at a member of the table, which is the first name of its path:

1. a piece puts something under that name and leaves all other names alone (`alter_eq_some`,
   `insert_eq_some`);
2. so after all pieces the names of the table are those at which they start
   (`mem_names_value?_iff`).
-/

namespace ChainBroker.Toml

/-- The names of the members of a value. -/
def names : Toml → List String
  | .table members => members.map Prod.fst
  | _ => []

/-- The names at which the pieces of a document start. -/
def Document.names (d : Document) : List String :=
  d.top.filterMap (·.path.head?) ++ d.sections.filterMap (·.header.path.head?)

/-! ## One piece -/

variable {name : String} {draft : Draft} {members after : Members}

theorem mem_names_put_iff {other : String} :
    other ∈ (put name draft members).map Prod.fst ↔
      other = name ∨ other ∈ members.map Prod.fst := by
  induction members with
  | nil => simp [put]
  | cons member members ih =>
    obtain ⟨first, old⟩ := member
    unfold put
    split
    · next heq => simp [heq]
    · rw [List.map_cons, List.mem_cons, ih, List.map_cons, List.mem_cons]
      exact or_left_comm

/-- Something is put under the first name of a path. -/
theorem exists_put {β : Type} {path : List String} {made : Option β} {f : β → Draft}
    (h : made.map (fun b => put name (f b) members) = some after) :
    ∃ first draft, (name :: path).head? = some first ∧ after = put first draft members := by
  obtain ⟨b, -, rfl⟩ := Option.map_eq_some_iff.mp h
  exact ⟨name, f b, rfl, rfl⟩

/-- A header puts something under the first name of its path. -/
theorem alter_eq_some {change : Option Draft → Option Draft} {path : List String}
    (h : alter change path members = some after) :
    ∃ name draft, path.head? = some name ∧ after = put name draft members := by
  match path with
  | [] => simp [alter] at h
  | [name] => exact exists_put (f := id) h
  | name :: next :: path =>
    unfold alter at h
    split at h
    · exact exists_put h
    · exact exists_put h
    · exact exists_put h
    · cases h

/-- So does a dotted key. -/
theorem insert_eq_some {value : Toml} {path : List String}
    (h : insert value path members = some after) :
    ∃ name draft, path.head? = some name ∧ after = put name draft members := by
  match path with
  | [] => simp [insert] at h
  | [name] =>
    unfold insert at h
    split at h
    · cases h
      exact ⟨name, _, rfl, rfl⟩
    · cases h
  | name :: next :: path =>
    unfold insert at h
    split at h
    · exact exists_put h
    · exact exists_put h
    · -- a table on the way of a header, where a key has to go further
      split at h
      · cases h
      · exact exists_put h
    · split at h
      · cases h
      · exact exists_put h
    all_goals cases h

/-! ## All pieces -/

/-- The names after pieces that put something under one name each. -/
theorem mem_names_foldlM_iff {β : Type} {step : Members → β → Option Members}
    {start : β → Option String}
    (puts : ∀ members piece after, step members piece = some after →
      ∃ name draft, start piece = some name ∧ after = put name draft members)
    {pieces : List β} (h : pieces.foldlM step members = some after) :
    name ∈ after.map Prod.fst ↔ name ∈ members.map Prod.fst ∨ name ∈ pieces.filterMap start := by
  induction pieces generalizing members with
  | nil =>
    cases h
    simp
  | cons piece pieces ih =>
    rw [List.foldlM_cons] at h
    obtain ⟨next, hnext, hrest⟩ := Option.bind_eq_some_iff.mp h
    obtain ⟨first, draft, hstart, rfl⟩ := puts _ _ _ hnext
    rw [ih hrest, mem_names_put_iff, List.filterMap_cons_some hstart, List.mem_cons]
    exact or_assoc.trans or_left_comm

theorem mem_names_insertAll_iff {pairs : List Pair} (h : insertAll pairs members = some after) :
    name ∈ after.map Prod.fst ↔
      name ∈ members.map Prod.fst ∨ name ∈ pairs.filterMap (·.path.head?) :=
  mem_names_foldlM_iff
    (fun _ (pair : Pair) _ (h : insert pair.value pair.path _ = some _) => insert_eq_some h) h

theorem mem_names_addSections_iff {sections : List Section}
    (h : sections.foldlM addSection members = some after) :
    name ∈ after.map Prod.fst ↔
      name ∈ members.map Prod.fst ∨ name ∈ sections.filterMap (·.header.path.head?) :=
  mem_names_foldlM_iff
    (fun _ (s : Section) _ (h : alter s.change s.header.path _ = some _) => alter_eq_some h) h

theorem map_fst_closeMembers (members : Members) :
    (closeMembers members).map Prod.fst = members.map Prod.fst := by
  induction members with
  | nil => rfl
  | cons member members ih => rw [closeMembers, List.map_cons, List.map_cons, ih]

theorem mem_names_ofMembers_iff {l : List (String × Toml)} :
    name ∈ (ofMembers l).names ↔ name ∈ l.map Prod.fst :=
  ((List.mergeSort_perm l _).map Prod.fst).mem_iff

/-- The names of a document's table are those at which its pieces start. -/
theorem mem_names_value?_iff {d : Document} {v : Toml} (h : d.value? = some v) :
    name ∈ v.names ↔ name ∈ d.names := by
  obtain ⟨top, htop, hrest⟩ := Option.bind_eq_some_iff.mp h
  obtain ⟨members, hmembers, hv⟩ := Option.bind_eq_some_iff.mp hrest
  cases hv
  rw [mem_names_ofMembers_iff, map_fst_closeMembers, mem_names_addSections_iff hmembers,
    mem_names_insertAll_iff htop]
  unfold Document.names
  rw [List.mem_append]
  simp

end ChainBroker.Toml
