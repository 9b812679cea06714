/-!
# Tables in ascending order of names

A table holds at most one value under each name and lists its entries in ascending order of the
names, which is also the order of their UTF-8 bytes. Two tables with the same look-ups are equal.
-/

namespace ChainBroker

/-- Values under names, in ascending order of the names. -/
structure Table (α : Type) where
  /-- The entries. -/
  toList : List (String × α)
  /-- Every name is less than all later ones. -/
  ascending : toList.Pairwise fun a b => a.1 < b.1 := by exact .nil

namespace Table

variable {α : Type}

instance : EmptyCollection (Table α) := ⟨{ toList := [] }⟩

instance : Inhabited (Table α) := ⟨∅⟩

instance [DecidableEq α] : DecidableEq (Table α) := fun a b =>
  if h : a.toList = b.toList then
    isTrue (by cases a; cases b; cases h; rfl)
  else isFalse fun e => h (congrArg toList e)

instance [Repr α] : Repr (Table α) := ⟨fun t => reprPrec t.toList⟩

/-- Puts a value under a name into a list of entries, in place of the one that is there. -/
def insertEntry (name : String) (value : α) : List (String × α) → List (String × α)
  | [] => [(name, value)]
  | entry :: rest =>
    if name < entry.1 then (name, value) :: entry :: rest
    else if name = entry.1 then (name, value) :: rest
    else entry :: insertEntry name value rest

theorem mem_insertEntry {name : String} {value : α} {l : List (String × α)} {e : String × α}
    (h : e ∈ insertEntry name value l) : e = (name, value) ∨ e ∈ l := by
  induction l with
  | nil => exact .inl (by simpa [insertEntry] using h)
  | cons entry rest ih =>
    unfold insertEntry at h
    split at h
    · simpa using h
    · split at h
      · rcases List.mem_cons.1 h with h | h
        · exact .inl h
        · exact .inr (List.mem_cons_of_mem _ h)
      · rcases List.mem_cons.1 h with h | h
        · exact .inr (h ▸ List.mem_cons_self)
        · exact (ih h).imp_right (List.mem_cons_of_mem _)

theorem ascending_insertEntry {name : String} {value : α} {l : List (String × α)}
    (h : l.Pairwise fun a b => a.1 < b.1) :
    (insertEntry name value l).Pairwise fun a b => a.1 < b.1 := by
  induction l with
  | nil => simp [insertEntry]
  | cons entry rest ih =>
    obtain ⟨h₁, h₂⟩ := List.pairwise_cons.1 h
    unfold insertEntry
    split
    · next lt =>
      refine List.pairwise_cons.2 ⟨fun e he => ?_, h⟩
      rcases List.mem_cons.1 he with rfl | he
      · exact lt
      · exact String.lt_trans lt (h₁ e he)
    · next not_lt =>
      split
      · next eq => exact List.pairwise_cons.2 ⟨fun e he => eq ▸ h₁ e he, h₂⟩
      · next ne =>
        refine List.pairwise_cons.2 ⟨fun e he => ?_, ih h₂⟩
        rcases mem_insertEntry he with rfl | he
        · exact Std.lt_of_le_of_ne (String.not_lt.1 not_lt) (Ne.symm ne)
        · exact h₁ e he

/-- The table with a value under a name, in place of the one that is there. -/
def insert (t : Table α) (name : String) (value : α) : Table α where
  toList := insertEntry name value t.toList
  ascending := ascending_insertEntry t.ascending

/-- The value under a name. -/
def get? (t : Table α) (name : String) : Option α := t.toList.lookup name

/-- The table of a list of entries; of several values under one name the last one stays. -/
def ofList (l : List (String × α)) : Table α :=
  l.foldl (fun t e => t.insert e.1 e.2) ∅

end Table

end ChainBroker
