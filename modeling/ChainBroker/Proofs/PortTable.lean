import ChainBroker.Proofs.Docker

/-!
# What a bind keeps of a table of ports

A daemon shows the ports of a container under keys with a number and a protocol, in no particular
order, and a bind puts them under their numbers one after the other. Where several keys have one
number, the last one hides the others:

1. every entry is the last one in some order of the table (`exists_order`);
2. so all orders lead to the same instance exactly if the entries for one number list the same
   places (`Uniform`), and no place is lost in any order exactly if each of them lists all that the
   others do (`Covering`).

The numbers of a table that shows every port for one protocol only are distinct, and then nothing is
hidden; a number that is used with two protocols is not safe (`bind_hides`).
-/

namespace ChainBroker.Docker

open Dialogue

variable {table order : PortTable} {entry : String × Option (List HostBinding)}

/-- The places that an entry lists, as endpoints. -/
def listed (entry : String × Option (List HostBinding)) : List Endpoint :=
  (entry.2.getD []).map HostBinding.endpoint

/-- The entries for one number list the same. -/
def Uniform (table : PortTable) : Prop :=
  ∀ entry ∈ table, ∀ other ∈ table, numberPart entry.1 = numberPart other.1 →
    listed entry = listed other

/-- Each of the entries for one number lists all that the others list. -/
def Covering (table : PortTable) : Prop :=
  ∀ entry ∈ table, ∀ other ∈ table, numberPart entry.1 = numberPart other.1 →
    listed entry ⊆ listed other

/-! ## Orders of a table -/

theorem get?_endpoints_concat (table : PortTable) (entry : String × Option (List HostBinding)) :
    (endpoints (table ++ [entry])).get? (numberPart entry.1) = some (listed entry) := by
  unfold endpoints
  rw [Table.get?_ofList, List.map_append, List.reverse_append]
  exact (lookup_cons_eq_ite _ _ _).trans (if_pos rfl)

/-- Every entry is the last one in some order. -/
theorem exists_order (h : entry ∈ table) :
    ∃ order, order.Perm table ∧
      (endpoints order).get? (numberPart entry.1) = some (listed entry) := by
  obtain ⟨before, after, rfl⟩ := List.append_of_mem h
  refine ⟨before ++ after ++ [entry], ?_, get?_endpoints_concat _ entry⟩
  rw [List.append_assoc]
  exact (List.perm_append_singleton entry after).append_left before

/-- What is found under the number of an entry is listed by an entry for the same number. -/
theorem exists_listed (h : entry ∈ table) :
    ∃ other ∈ table, numberPart other.1 = numberPart entry.1 ∧
      (endpoints table).get? (numberPart entry.1) = some (listed other) := by
  have hnames : numberPart entry.1 ∈ (endpoints table).toList.map Prod.fst :=
    mem_names_endpoints_iff.mpr (List.mem_map.mpr ⟨entry, h, rfl⟩)
  obtain ⟨found, hfound⟩ := Option.isSome_iff_exists.mp ((Table.mem_names_iff _).mp hnames)
  obtain ⟨key, places, hmem, hnumber, rfl⟩ := exists_mem_of_get?_endpoints hfound
  exact ⟨(key, places), hmem, hnumber, hfound⟩

/-- If the entries for one number list the same, the order does not matter. -/
theorem Uniform.endpoints_eq (h : Uniform table) (hperm : order.Perm table) :
    endpoints order = endpoints table := by
  refine Table.ext_get? fun number => ?_
  by_cases hnumber : ∃ entry ∈ table, numberPart entry.1 = number
  · obtain ⟨entry, hentry, rfl⟩ := hnumber
    obtain ⟨first, hfirst, hnumber1, hget1⟩ := exists_listed (hperm.mem_iff.mpr hentry)
    obtain ⟨second, hsecond, hnumber2, hget2⟩ := exists_listed hentry
    rw [hget1, hget2]
    exact congrArg some
      (h first (hperm.mem_iff.mp hfirst) second hsecond (hnumber1.trans hnumber2.symm))
  · -- no entry has the number, so nothing is found in either order
    have hnone : ∀ shown : PortTable, shown.Perm table → (endpoints shown).get? number = none := by
      intro shown hshown
      by_contra hget
      obtain ⟨found, hfound⟩ := Option.ne_none_iff_exists'.mp hget
      obtain ⟨key, places, hmem, hkey, -⟩ := exists_mem_of_get?_endpoints hfound
      exact hnumber ⟨_, hshown.mem_iff.mp hmem, hkey⟩
    rw [hnone order hperm, hnone table (.refl table)]

/-! ## Binds -/

/-- The instance is what a bind gives when the daemon answers with the inspection. -/
def Gives (internalAddress externalAddress instanceId : String) (inspection : Inspection)
    (inst : Instance) : Prop :=
  Transcript (bind internalAddress externalAddress instanceId).run
    [⟨.inspect instanceId, .ok inspection⟩] (.ok inst)

/-- The instance has every place that the table lists, under the number of the key. -/
def Keeps (inst : Instance) (table : PortTable) : Prop :=
  ∀ key places, (key, some places) ∈ table → ∀ place ∈ places,
    ∃ found, inst.endpoints.get? (numberPart key) = some found ∧ place.endpoint ∈ found

variable {internalAddress externalAddress instanceId : String}

theorem gives_iff {inspection : Inspection} {inst : Instance} :
    Gives internalAddress externalAddress instanceId inspection inst ↔
      inst = ⟨internalAddress, externalAddress, endpoints (inspection.ports.getD [])⟩ := by
  constructor
  · intro h
    obtain ⟨inspected, hlog, hresult⟩ := transcript_bind h
    cases hlog
    cases hresult
    rfl
  · rintro rfl
    exact .ask (.done _)

theorem Covering.keeps (h : Covering table) (hperm : order.Perm table) :
    Keeps ⟨internalAddress, externalAddress, endpoints order⟩ table := by
  intro key places hmem place hplace
  obtain ⟨other, hother, hnumber, hget⟩ := exists_listed (hperm.mem_iff.mpr hmem)
  refine ⟨listed other, hget, ?_⟩
  exact h _ hmem other (hperm.mem_iff.mp hother) hnumber.symm
    (List.mem_map.mpr ⟨place, hplace, rfl⟩)

/-- **A bind tells the same in every order of the table exactly if the entries for one number list
the same, and it keeps every place in every order exactly if each of these entries lists all that
the others list.** A container without a table is like one whose table is empty. -/
theorem bind_faithful_iff (internalAddress externalAddress instanceId : String)
    (table : PortTable) :
    ((∃ inst, ∀ order, order.Perm table →
      Gives internalAddress externalAddress instanceId ⟨some order⟩ inst) ↔ Uniform table) ∧
    ((∀ order, order.Perm table →
      ∃ inst, Gives internalAddress externalAddress instanceId ⟨some order⟩ inst ∧
        Keeps inst table) ↔ Covering table) ∧
    ∀ inst, Gives internalAddress externalAddress instanceId ⟨none⟩ inst ↔
      Gives internalAddress externalAddress instanceId ⟨some []⟩ inst := by
  refine ⟨⟨?_, fun h => ?_⟩, ⟨?_, fun h order hperm => ?_⟩, fun inst => ?_⟩
  · -- of two entries with one number, each comes last in some order and is then the one kept
    rintro ⟨inst, gives⟩ entry hentry other hother hnumber
    obtain ⟨order1, hperm1, hget1⟩ := exists_order hentry
    obtain ⟨order2, hperm2, hget2⟩ := exists_order hother
    have heq : endpoints order1 = endpoints order2 :=
      congrArg Instance.endpoints
        ((gives_iff.mp (gives order1 hperm1)).symm.trans (gives_iff.mp (gives order2 hperm2)))
    rw [heq, hnumber, hget2] at hget1
    exact (Option.some.inj hget1).symm
  · exact ⟨⟨internalAddress, externalAddress, endpoints table⟩, fun order hperm =>
      gives_iff.mpr (by rw [← h.endpoints_eq hperm]; rfl)⟩
  · -- where the other entry comes last, its list must have the places of this one
    rintro keeps ⟨key, places⟩ hentry other hother hnumber endpoint hendpoint
    obtain ⟨order, hperm, hget⟩ := exists_order hother
    obtain ⟨inst, gives, keeps⟩ := keeps order hperm
    obtain ⟨place, hplace, rfl⟩ := List.mem_map.mp hendpoint
    cases places with
    | none => simp at hplace
    | some places =>
      obtain ⟨found, hfound, hmem⟩ := keeps key places hentry place hplace
      rw [gives_iff.mp gives, show numberPart key = numberPart other.1 from hnumber] at hfound
      rw [show endpoints ((some order).getD []) = endpoints order from rfl, hget] at hfound
      cases hfound
      exact hmem
  · exact ⟨_, gives_iff.mpr rfl, h.keeps hperm⟩
  · rw [gives_iff, gives_iff]
    rfl

/-- A table in which a port is published for one protocol and not for another one. -/
def halfPublished : PortTable :=
  [("30303/tcp", some [⟨some "0.0.0.0", some "49153"⟩]), ("30303/udp", none)]

/-- What a bind tells of such a table depends on the order, and the place may be lost. -/
theorem bind_hides :
    (¬∃ inst, ∀ order, order.Perm halfPublished →
      Gives "127.0.0.1" "12.34.56.78" "inst-1" ⟨some order⟩ inst) ∧
    ¬∀ order, order.Perm halfPublished →
      ∃ inst, Gives "127.0.0.1" "12.34.56.78" "inst-1" ⟨some order⟩ inst ∧
        Keeps inst halfPublished := by
  obtain ⟨settled, kept, -⟩ :=
    bind_faithful_iff "127.0.0.1" "12.34.56.78" "inst-1" halfPublished
  have hnumber : numberPart "30303/tcp" = numberPart "30303/udp" := by decide
  rw [settled, kept]
  constructor
  · intro uniform
    have heq := uniform _ List.mem_cons_self _ (.tail _ List.mem_cons_self) hnumber
    exact absurd heq (by decide)
  · intro covering
    have hsubset := covering _ List.mem_cons_self _ (.tail _ List.mem_cons_self) hnumber
    exact absurd (hsubset List.mem_cons_self) (by decide)

end ChainBroker.Docker
