import Mathlib.Data.List.Basic

/-!
# Sorting by texts

What is listed by name is sorted by a text, and elements that have one text stay in the order in
which they come.

* `mergeSort_eq_of_perm`: the order in which elements come does not matter if those that have one
  text are one element.
* `forall_perm_mergeSort_eq_iff`: otherwise it does matter.
-/

namespace ChainBroker

variable {α β : Type}

theorem decide_text_trans (text : α → String) (a b c : α)
    (hab : decide (text a ≤ text b) = true) (hbc : decide (text b ≤ text c) = true) :
    decide (text a ≤ text c) = true := by
  rw [decide_eq_true_eq] at hab hbc ⊢
  exact String.le_trans hab hbc

theorem decide_text_total (text : α → String) (a b : α) :
    (decide (text a ≤ text b) || decide (text b ≤ text a)) = true := by
  rw [Bool.or_eq_true, decide_eq_true_eq, decide_eq_true_eq]
  exact String.le_total _ _

theorem pairwise_mergeSort_text (text : α → String) (l : List α) :
    (l.mergeSort fun a b => text a ≤ text b).Pairwise fun a b => text a ≤ text b := by
  refine (List.pairwise_mergeSort (decide_text_trans text) (decide_text_total text) l).imp ?_
  exact fun h => of_decide_eq_true h

/-- The order in which elements come does not matter if no two of them have one text. -/
theorem mergeSort_eq_of_perm (text : α → String) {l l' : List α} (hperm : l.Perm l')
    (distinct : ∀ a ∈ l, ∀ b ∈ l, text a = text b → a = b) :
    (l.mergeSort fun a b => text a ≤ text b) = l'.mergeSort fun a b => text a ≤ text b := by
  have hsorted := (List.mergeSort_perm l fun a b => text a ≤ text b).trans
    (hperm.trans (List.mergeSort_perm l' fun a b => text a ≤ text b).symm)
  refine hsorted.eq_of_pairwise ?_ (pairwise_mergeSort_text text l)
    (pairwise_mergeSort_text text l')
  intro a b ha hb hab hba
  have hb' : b ∈ l := hperm.mem_iff.mpr (List.mem_mergeSort.mp hb)
  exact distinct a (List.mem_mergeSort.mp ha) b hb' (String.le_antisymm hab hba)

/-- The texts come out in one order, whatever else the elements have. -/
theorem map_mergeSort_of_perm {text : α → String} {l : List α} {texts : List String}
    (hperm : (l.map text).Perm texts) :
    (l.mergeSort fun a b => text a ≤ text b).map text = texts.mergeSort fun a b => a ≤ b := by
  rw [List.map_mergeSort (s := fun a b => decide (a ≤ b)) (fun _ _ _ _ => rfl)]
  exact mergeSort_eq_of_perm (fun name => name) hperm fun _ _ _ _ h => h

/-- Elements that have one text stay in the order in which they come. -/
theorem filter_mergeSort {text : α → String} (key : String) (l : List α) :
    ((l.mergeSort fun a b => text a ≤ text b).filter fun a => text a = key) =
      l.filter fun a => text a = key := by
  have hkey : (l.filter fun a => text a = key).Pairwise fun a b =>
      decide (text a ≤ text b) = true := by
    refine List.pairwise_of_forall_mem_list fun a ha b hb => ?_
    rw [List.mem_filter, decide_eq_true_eq] at ha hb
    exact decide_eq_true (ha.2.trans hb.2.symm ▸ String.le_refl _)
  -- they are a part of what is sorted that is in order already
  have hpart := List.sublist_mergeSort (decide_text_trans text) (decide_text_total text) hkey
    List.filter_sublist
  have hsub := hpart.filter fun a => text a = key
  rw [List.filter_filter] at hsub
  simp only [Bool.and_self] at hsub
  exact (hsub.eq_of_length ((List.mergeSort_perm l _).filter _).length_eq.symm).symm

/-- Any two elements may come first. -/
theorem exists_cons_cons_perm {l : List α} {a b : α} (ha : a ∈ l) (hb : b ∈ l) (hne : a ≠ b) :
    ∃ rest, (a :: b :: rest).Perm l := by
  classical
  have hrest : b ∈ l.erase a := (List.mem_erase_of_ne (Ne.symm hne)).mpr hb
  refine ⟨(l.erase a).erase b, ?_⟩
  exact ((List.perm_cons_erase hrest).symm.cons a).trans (List.perm_cons_erase ha).symm

/-- The order in which elements come does not matter only if those that have one text look alike. -/
theorem forall_perm_mergeSort_eq_iff {text : β → String} {f : α → β} {l : List α} :
    (∀ l' : List α, l'.Perm l → ((l'.map f).mergeSort fun a b => text a ≤ text b) =
        (l.map f).mergeSort fun a b => text a ≤ text b) ↔
      ∀ a ∈ l, ∀ b ∈ l, text (f a) = text (f b) → f a = f b := by
  constructor
  · intro h a ha b hb htext
    by_contra hne
    -- either of the two may come first, and then it is the first one of its text
    obtain ⟨rest, hperm⟩ := exists_cons_cons_perm ha hb fun hab => hne (hab ▸ rfl)
    have hsort := (h _ hperm).trans (h _ ((List.Perm.swap a b _).trans hperm)).symm
    have hfilter := congrArg (List.filter fun x => text x = text (f a)) hsort
    rw [filter_mergeSort, filter_mergeSort] at hfilter
    simp [htext] at hfilter
    exact hne hfilter.1
  · intro h l' hperm
    refine mergeSort_eq_of_perm text (hperm.map f) ?_
    simp only [List.forall_mem_map, hperm.mem_iff]
    exact h

end ChainBroker
