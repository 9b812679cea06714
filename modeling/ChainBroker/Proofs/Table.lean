import ChainBroker.Table

/-!
# Looking things up in tables

What stands under a name in a table made of a list is the last value that the list has for it, and
the names of the table are those of the list. Where no name occurs twice, every entry of the list is
found. A table is determined by what is found in it, so it is the table of its own entries.
-/

namespace ChainBroker

/-- Entries are found by the first one that has the name. -/
theorem lookup_cons_eq_ite {α : Type} (key : String) (entry : String × α)
    (l : List (String × α)) :
    (entry :: l).lookup key = if key = entry.1 then some entry.2 else l.lookup key := by
  obtain ⟨name, value⟩ := entry
  rw [List.lookup_cons]
  by_cases h : key = name
  · rw [if_pos h, beq_iff_eq.mpr h]
  · rw [if_neg h, beq_eq_false_iff_ne.mpr h]

theorem lookup_eq_some_of_mem {α : Type} {key : String} {value : α} {l : List (String × α)}
    (hl : (l.map Prod.fst).Nodup) (h : (key, value) ∈ l) : l.lookup key = some value := by
  induction l with
  | nil => simp at h
  | cons entry rest ih =>
    rw [List.map_cons, List.nodup_cons] at hl
    rw [lookup_cons_eq_ite]
    rcases List.mem_cons.mp h with h | h
    · rw [← h, if_pos rfl]
    · rw [if_neg, ih hl.2 h]
      intro hkey
      exact hl.1 (List.mem_map.mpr ⟨_, h, hkey⟩)

theorem mem_of_lookup_eq_some {α : Type} {key : String} {value : α} {l : List (String × α)}
    (h : l.lookup key = some value) : (key, value) ∈ l := by
  obtain ⟨before, after, rfl, -⟩ := List.lookup_eq_some_iff.mp h
  exact List.mem_append_right _ List.mem_cons_self

namespace Table

variable {α : Type} {name key : String} {value : α}

/-! ## One entry -/

theorem lookup_insertEntry (l : List (String × α)) :
    (insertEntry name value l).lookup key = if key = name then some value else l.lookup key := by
  induction l with
  | nil => exact lookup_cons_eq_ite key (name, value) []
  | cons entry rest ih =>
    unfold insertEntry
    split
    · exact lookup_cons_eq_ite key (name, value) (entry :: rest)
    · split
      · next heq =>
        rw [lookup_cons_eq_ite, lookup_cons_eq_ite key entry, ← heq]
        split <;> rfl
      · next hne =>
        rw [lookup_cons_eq_ite, lookup_cons_eq_ite key entry, ih]
        by_cases h : key = entry.1
        · rw [if_pos h, if_pos h, if_neg fun hk => hne (hk.symm.trans h)]
        · rw [if_neg h, if_neg h]

theorem get?_insert (t : Table α) :
    (t.insert name value).get? key = if key = name then some value else t.get? key :=
  lookup_insertEntry t.toList

/-! ## Lists of entries -/

theorem get?_foldl_insert (l : List (String × α)) (t : Table α) :
    (l.foldl (fun t e => t.insert e.1 e.2) t).get? key =
      (l.reverse.lookup key).or (t.get? key) := by
  -- the first entry of the list is in the table when the others come
  induction l generalizing t with
  | nil => rfl
  | cons entry rest ih =>
    rw [List.foldl_cons, ih, get?_insert, List.reverse_cons, List.lookup_append, Option.or_assoc,
      lookup_cons_eq_ite, List.lookup_nil]
    split <;> rfl

/-- The last value of a name stays. -/
theorem get?_ofList (l : List (String × α)) : (ofList l).get? key = l.reverse.lookup key := by
  unfold ofList
  rw [get?_foldl_insert]
  exact Option.or_none

theorem get?_ofList_eq_some {l : List (String × α)} (hl : (l.map Prod.fst).Nodup)
    (h : (key, value) ∈ l) : (ofList l).get? key = some value := by
  rw [get?_ofList]
  refine lookup_eq_some_of_mem ?_ (List.mem_reverse.mpr h)
  rw [List.map_reverse]
  exact (List.reverse_perm _).nodup_iff.mpr hl

theorem exists_mem_of_get?_ofList {l : List (String × α)} (h : (ofList l).get? key = some value) :
    (key, value) ∈ l := by
  rw [get?_ofList] at h
  exact List.mem_reverse.mp (mem_of_lookup_eq_some h)

/-- A name is in a table exactly if something stands under it. -/
theorem mem_names_iff (t : Table α) : key ∈ t.toList.map Prod.fst ↔ (t.get? key).isSome := by
  unfold get?
  rw [List.lookup_isSome_iff, List.mem_map]
  constructor
  · rintro ⟨entry, hm, rfl⟩
    exact ⟨entry, hm, beq_self_eq_true _⟩
  · rintro ⟨entry, hm, h⟩
    exact ⟨entry, hm, (beq_iff_eq.mp h).symm⟩

theorem nodup_names (t : Table α) : (t.toList.map Prod.fst).Nodup :=
  List.pairwise_map.mpr (t.ascending.imp fun h => String.ne_of_lt h)

theorem nodup_toList (t : Table α) : t.toList.Nodup :=
  t.ascending.imp fun h heq => String.ne_of_lt h (congrArg Prod.fst heq)

theorem mem_toList_iff (t : Table α) : (key, value) ∈ t.toList ↔ t.get? key = some value :=
  ⟨lookup_eq_some_of_mem t.nodup_names, mem_of_lookup_eq_some⟩

/-- Two tables with the same look-ups are equal. -/
theorem ext_get? {t u : Table α} (h : ∀ key, t.get? key = u.get? key) : t = u := by
  have hmem : ∀ entry, entry ∈ t.toList ↔ entry ∈ u.toList := by
    rintro ⟨key, value⟩
    rw [mem_toList_iff, mem_toList_iff, h]
  have hperm : t.toList.Perm u.toList :=
    (List.perm_ext_iff_of_nodup t.nodup_toList u.nodup_toList).mpr hmem
  -- both list the entries in the same order, since no two names are less than each other
  have heq : t.toList = u.toList :=
    hperm.eq_of_pairwise (fun _ _ _ _ hlt hgt => absurd hgt (String.lt_asymm hlt)) t.ascending
      u.ascending
  cases t
  cases u
  cases heq
  rfl

/-- A table is the table of its entries. -/
theorem ofList_toList (t : Table α) : ofList t.toList = t := by
  refine ext_get? fun key => ?_
  have hnodup : (t.toList.reverse.map Prod.fst).Nodup := by
    rw [List.map_reverse]
    exact (List.reverse_perm _).nodup_iff.mpr t.nodup_names
  rw [get?_ofList]
  refine Option.ext fun value => ?_
  rw [← mem_toList_iff, ← List.mem_reverse]
  exact ⟨mem_of_lookup_eq_some, lookup_eq_some_of_mem hnodup⟩

theorem mem_names_ofList_iff {l : List (String × α)} :
    key ∈ (ofList l).toList.map Prod.fst ↔ key ∈ l.map Prod.fst := by
  rw [mem_names_iff, get?_ofList, List.lookup_isSome_iff, List.mem_map]
  constructor
  · rintro ⟨entry, hm, h⟩
    exact ⟨entry, List.mem_reverse.mp hm, (beq_iff_eq.mp h).symm⟩
  · rintro ⟨entry, hm, rfl⟩
    exact ⟨entry, List.mem_reverse.mpr hm, beq_self_eq_true _⟩

end Table

end ChainBroker
