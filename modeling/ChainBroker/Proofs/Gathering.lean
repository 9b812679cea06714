import Mathlib.Data.List.Nodup

/-!
# Gathering values under keys

Both the plans of a file and the services of a directory are gathered by one loop: each element is
made a value, one after another, and a value is refused if an earlier one has its key.

1. What is gathered are the values of all elements, under distinct keys (`gather_eq_ok_iff`).
2. If nothing is gathered then one of the elements is refused, after those before it have been
   gathered, and whatever comes behind it (`gather_eq_error_iff`).
3. Keys that elements leave out are supplied by their places. If those are apart from each other and
   from the ones that are given, the keys are distinct if the ones that are given are
   (`Supply.nodup_iff`).
-/

namespace ChainBroker

/-! ## The loop -/

section Gather

variable {α β ε : Type} (make : Nat → α → Except ε β) (key : β → String) (refuse : α → String → ε)

/-- Makes a value of each element, in order, and refuses a value whose key has been seen. -/
def gather : (index : Nat) → (seen : List β) → List α → Except ε (List β)
  | _, seen, [] => .ok seen
  | index, seen, a :: l =>
    match make index a with
    | .error e => .error e
    | .ok b =>
      if key b ∈ seen.map key then .error (refuse a (key b))
      else gather (index + 1) (seen ++ [b]) l

/-- How the element at a place is refused, after the values `seen`. -/
inductive Refused (index : Nat) (seen : List β) (a : α) : ε → Prop where
  /-- No value can be made of it. -/
  | unmade {e : ε} (h : make index a = .error e) : Refused index seen a e
  /-- Its key has been seen. -/
  | taken {b : β} (h : make index a = .ok b) (hkey : key b ∈ seen.map key) :
    Refused index seen a (refuse a (key b))

variable {make key refuse} {index : Nat} {seen bs : List β} {a : α} {l : List α} {e : ε}

theorem gather_append (l l' : List α) :
    gather make key refuse index seen (l ++ l') =
      (gather make key refuse index seen l).bind fun bs =>
        gather make key refuse (index + l.length) bs l' := by
  induction l generalizing index seen with
  | nil => rfl
  | cons a l ih =>
    rw [List.cons_append, gather, gather]
    cases make index a with
    | error e => rfl
    | ok b =>
      simp only
      split
      · rfl
      · rw [ih, List.length_cons, Nat.add_assoc, Nat.add_comm 1]

theorem gather_seen_eq_ok_iff (hseen : (seen.map key).Nodup) :
    gather make key refuse index seen l = .ok bs ↔
      ∃ made, (l.zipIdx index).map (fun p => make p.2 p.1) = made.map .ok ∧
        ((seen ++ made).map key).Nodup ∧ bs = seen ++ made := by
  -- by induction on what is still to come; what was seen grows with it
  induction l generalizing index seen with
  | nil =>
    rw [gather, Except.ok.injEq]
    constructor
    · rintro rfl
      exact ⟨[], rfl, by rwa [List.append_nil], (List.append_nil _).symm⟩
    · rintro ⟨made, hmade, -, rfl⟩
      rw [List.map_eq_nil_iff.mp hmade.symm, List.append_nil]
  | cons a l ih =>
    rw [gather, List.zipIdx_cons, List.map_cons]
    cases hmake : make index a with
    | error e =>
      refine ⟨nofun, ?_⟩
      rintro ⟨made, hmade, -⟩
      cases made with
      | nil => cases hmade
      | cons b made => exact nomatch (List.cons.inj hmade).1
    | ok b =>
      -- a key that was seen stops the gathering, and then no continuation has distinct keys
      by_cases hkey : key b ∈ seen.map key
      · simp only [if_pos hkey]
        refine ⟨nofun, ?_⟩
        rintro ⟨made, hmade, hnodup, -⟩
        cases made with
        | nil => cases hmade
        | cons b' made =>
          cases Except.ok.inj (List.cons.inj hmade).1
          rw [List.map_append, List.nodup_append] at hnodup
          exact absurd rfl (hnodup.2.2 _ hkey _ (List.mem_map_of_mem List.mem_cons_self))
      · have hnext : ((seen ++ [b]).map key).Nodup := by
          rw [List.map_append, List.map_singleton, ← List.concat_eq_append]
          exact hseen.concat hkey
        simp only [if_neg hkey]
        rw [ih hnext]
        constructor
        · rintro ⟨made, hmade, hnodup, rfl⟩
          rw [List.append_assoc] at hnodup ⊢
          exact ⟨b :: made, by rw [hmade, List.map_cons], hnodup, rfl⟩
        · rintro ⟨made, hmade, hnodup, rfl⟩
          cases made with
          | nil => cases hmade
          | cons b' made =>
            cases Except.ok.inj (List.cons.inj hmade).1
            refine ⟨made, (List.cons.inj hmade).2, ?_, ?_⟩ <;>
              rw [List.append_assoc, List.singleton_append]
            exact hnodup

/-- All elements have their values, and the keys are distinct. -/
theorem gather_eq_ok_iff :
    gather make key refuse 0 [] l = .ok bs ↔
      l.zipIdx.map (fun p => make p.2 p.1) = bs.map .ok ∧ (bs.map key).Nodup := by
  rw [gather_seen_eq_ok_iff (show (([] : List β).map key).Nodup from List.nodup_nil)]
  constructor
  · rintro ⟨made, hmade, hnodup, rfl⟩
    exact ⟨hmade, hnodup⟩
  · rintro ⟨hmade, hnodup⟩
    exact ⟨bs, hmade, hnodup, rfl⟩

theorem Refused.gather_cons (h : Refused make key refuse index seen a e) (l : List α) :
    gather make key refuse index seen (a :: l) = .error e := by
  rw [gather]
  cases h with
  | unmade h => rw [h]
  | taken h hkey => simp only [h, if_pos hkey]

/-- What comes behind the first element that is refused does not matter. -/
theorem gather_eq_error_iff :
    gather make key refuse index seen l = .error e ↔
      ∃ before a after made, l = before ++ a :: after ∧
        gather make key refuse index seen before = .ok made ∧
        Refused make key refuse (index + before.length) made a e := by
  constructor
  · intro h
    -- the first element is refused, or the first one that is refused comes later
    induction l generalizing index seen with
    | nil => cases h
    | cons a l ih =>
      rw [gather] at h
      cases hmake : make index a with
      | error e' =>
        rw [hmake] at h
        cases h
        exact ⟨[], a, l, seen, rfl, rfl, .unmade hmake⟩
      | ok b =>
        simp only [hmake] at h
        split at h
        · next hkey =>
          cases h
          exact ⟨[], a, l, seen, rfl, rfl, .taken hmake hkey⟩
        · next hkey =>
          obtain ⟨before, a', after, made, rfl, hmade, hrefused⟩ := ih h
          refine ⟨a :: before, a', after, made, rfl, ?_, ?_⟩
          · rw [gather]
            simpa only [hmake, if_neg hkey] using hmade
          · rwa [List.length_cons, Nat.add_comm before.length, ← Nat.add_assoc]
  · rintro ⟨before, a, after, made, rfl, hmade, hrefused⟩
    rw [gather_append, hmade]
    exact hrefused.gather_cons after

theorem exists_of_map_eq_map_ok {f : α → Except ε β} (h : l.map f = bs.map .ok) {b : β}
    (hb : b ∈ bs) : ∃ a ∈ l, f a = .ok b := by
  rw [← List.mem_map, h]
  exact List.mem_map_of_mem hb

/-- The values of elements that have one exactly if they are as they should be. -/
theorem map_eq_map_ok_iff {f : α → Except ε β} {P : α → Prop} {g : α → β}
    (h : ∀ a b, f a = .ok b ↔ P a ∧ b = g a) :
    l.map f = bs.map .ok ↔ (∀ a ∈ l, P a) ∧ bs = l.map g := by
  induction l generalizing bs with
  | nil => rw [List.map_nil, eq_comm, List.map_eq_nil_iff]; simp
  | cons a l ih =>
    cases bs with
    | nil => simp
    | cons b bs =>
      rw [List.map_cons, List.map_cons, List.cons.injEq, h, ih, List.forall_mem_cons, List.map_cons,
        List.cons.injEq, and_and_and_comm]

end Gather

/-! ## Keys that are left out -/

theorem getElem?_append_of_eq_some {α : Type} {l : List α} {i : Nat} {a : α} (h : l[i]? = some a)
    (others : List α) : (l ++ others)[i]? = some a := by
  rw [List.getElem?_append_left (List.getElem?_eq_some_iff.mp h).1, h]

/-- The keys that are supplied for those left out differ from each other and from those given. -/
structure Supply (fresh : Nat → String) (keys : List (Option String)) : Prop where
  /-- What is supplied at two places differs. -/
  distinct : ∀ i j, keys[i]? = some none → keys[j]? = some none → fresh i = fresh j → i = j
  /-- What is supplied is not given. -/
  apart : ∀ i key, keys[i]? = some none → some key ∈ keys → fresh i ≠ key

namespace Supply

variable {fresh : Nat → String} {keys : List (Option String)}

/-- Two places have one key only if it is given at both. -/
theorem given (h : Supply fresh keys) {i j : Nat} {a b : Option String} (hi : keys[i]? = some a)
    (hj : keys[j]? = some b) (hne : i ≠ j) (heq : a.getD (fresh i) = b.getD (fresh j)) :
    ∃ key, a = some key ∧ b = some key := by
  cases a with
  | none =>
    cases b with
    | none => exact absurd (h.distinct i j hi hj heq) hne
    | some key => exact absurd heq (h.apart i key hi (List.mem_of_getElem? hj))
  | some key =>
    cases b with
    | none => exact absurd heq.symm (h.apart j key hj (List.mem_of_getElem? hi))
    | some key' => exact ⟨key, rfl, congrArg some heq.symm⟩

theorem left {others : List (Option String)} (h : Supply fresh (keys ++ others)) :
    Supply fresh keys where
  distinct i j hi hj heq :=
    h.distinct i j (getElem?_append_of_eq_some hi _) (getElem?_append_of_eq_some hj _) heq
  apart i key hi hkey :=
    h.apart i key (getElem?_append_of_eq_some hi _) (List.mem_append_left _ hkey)

/-- The key of a place is that of an earlier one only if it is given at both. -/
theorem given_of_mem {key : Option String} {others : List (Option String)}
    (h : Supply fresh (keys ++ key :: others)) {n : Nat} (hn : keys.length = n)
    (hmem : key.getD (fresh n) ∈ keys.zipIdx.map fun p => p.1.getD (fresh p.2)) :
    ∃ given, key = some given ∧ some given ∈ keys := by
  subst hn
  obtain ⟨⟨other, i⟩, hother, heq⟩ := List.mem_map.mp hmem
  have hi : keys[i]? = some other := List.mk_mem_zipIdx_iff_getElem?.mp hother
  have hlast : (keys ++ key :: others)[keys.length]? = some key := by simp
  have hne : i ≠ keys.length := Nat.ne_of_lt (List.getElem?_eq_some_iff.mp hi).1
  obtain ⟨given, rfl, hgiven⟩ := h.given (getElem?_append_of_eq_some hi _) hlast hne heq
  exact ⟨given, hgiven, List.mem_of_getElem? hi⟩

theorem tail {first : Option String} (h : Supply fresh (first :: keys)) :
    Supply (fun i => fresh (i + 1)) keys where
  distinct i j hi hj heq :=
    Nat.succ.inj (h.distinct (i + 1) (j + 1) (by rwa [List.getElem?_cons_succ])
      (by rwa [List.getElem?_cons_succ]) heq)
  apart i key hi hkey :=
    h.apart (i + 1) key (by rwa [List.getElem?_cons_succ]) (List.mem_cons_of_mem _ hkey)

theorem nodup_given (h : (keys.zipIdx.map fun p => p.1.getD (fresh p.2)).Nodup) :
    (keys.filterMap id).Nodup := by
  rw [List.Nodup, List.pairwise_map] at h
  rw [← List.zipIdx_map_fst 0 keys, List.filterMap_map, List.Nodup, List.pairwise_filterMap]
  refine h.imp fun {p q} hne a ha b hb heq => hne ?_
  rw [show p.1 = some a from ha, show q.1 = some b from hb, heq]
  rfl

/-- All keys are distinct exactly if those that are given are. -/
theorem nodup_iff (h : Supply fresh keys) :
    (keys.zipIdx.map fun p => p.1.getD (fresh p.2)).Nodup ↔ (keys.filterMap id).Nodup := by
  refine ⟨nodup_given, fun hgiven => ?_⟩
  have places : keys.zipIdx.Pairwise fun p q => p.2 ≠ q.2 := by
    rw [← List.pairwise_map, List.zipIdx_map_snd]
    exact List.nodup_range'
  rw [← List.zipIdx_map_fst 0 keys, List.filterMap_map, List.Nodup, List.pairwise_filterMap]
    at hgiven
  rw [List.Nodup, List.pairwise_map]
  -- places differ, so a key that two of them have is given at both
  refine (places.and hgiven).imp_of_mem ?_
  intro p q hp hq hpq heq
  obtain ⟨key, hkey, hkey'⟩ := h.given (List.mem_zipIdx_iff_getElem?.mp hp)
    (List.mem_zipIdx_iff_getElem?.mp hq) hpq.1 heq
  exact hpq.2 key hkey key hkey' rfl

end Supply

end ChainBroker
