import ChainBroker.Settings.Placeholder
import Mathlib.Data.List.Basic
import Mathlib.Data.List.TakeWhile
import Mathlib.Tactic.Push

/-!
# A single pass over a text

A text is gone through once from left to right (`Scans`): where a placeholder starts, it is taken as
a whole, and everywhere else one character is taken. This cuts every text into pieces in exactly one
way, whatever values there are.

1. `name?_eq_some_iff`: a placeholder ends at the first closing brace.
2. `substitute_placeholder` and `substitute_other`: what becomes of the first piece of a text.
3. `Scans.substitute_eq`: a text becomes what its pieces become, one after the other.

So values are put in as they are, and only the names of the placeholders matter
(`substitute_single_pass`).
-/

namespace ChainBroker.Placeholder

variable {value value' : String → Option String} {name rest s : List Char} {c : Char}

/-! ## Pieces -/

/-- What may stand between the braces of a placeholder. -/
structure IsName (name : List Char) : Prop where
  /-- It is not empty. -/
  nonempty : name ≠ []
  /-- It holds no closing brace; an opening one, a dollar sign or a line end it may hold. -/
  noBrace : '\x7d' ∉ name

/-- A placeholder as it stands in a text. -/
def written (name : List Char) : List Char := '$' :: '\x7b' :: (name ++ ['\x7d'])

/-- No placeholder stands at the front of the text. -/
def StartsNone (s : List Char) : Prop := ∀ name rest, IsName name → s ≠ written name ++ rest

/-- What a text is made of. -/
inductive Piece where
  | placeholder (name : List Char)
  /-- A character that belongs to no placeholder. -/
  | other (c : Char)

/-- What becomes of a piece: a placeholder whose name has no value stays as it is. -/
def Piece.become (value : String → Option String) : Piece → List Char
  | placeholder name => ((value (String.ofList name)).map String.toList).getD (written name)
  | other c => [c]

/-- The pieces of a text, from left to right. -/
inductive Scans : List Char → List Piece → Prop where
  /-- At the end there are none. -/
  | nil : Scans [] []
  /-- A placeholder is taken where one starts, and the text behind it is gone through. -/
  | placeholder {name rest : List Char} {pieces : List Piece} (isName : IsName name)
    (behind : Scans rest pieces) : Scans (written name ++ rest) (.placeholder name :: pieces)
  /-- A character is taken where no placeholder starts. -/
  | other {c : Char} {s : List Char} {pieces : List Piece} (none : StartsNone (c :: s))
    (behind : Scans s pieces) : Scans (c :: s) (.other c :: pieces)

/-! ## One piece -/

/-- A name and its closing brace are read, and nothing behind them. -/
theorem name?_append (h : IsName name) (rest : List Char) :
    name? (name ++ '\x7d' :: rest) = some (name, rest) := by
  have hname : ∀ c ∈ name, (c ≠ '\x7d' : Bool) = true := by
    intro c hc
    rw [decide_eq_true_eq]
    exact fun heq => h.noBrace (heq ▸ hc)
  have htake : (name ++ '\x7d' :: rest).takeWhile (· ≠ '\x7d') = name := by
    rw [List.takeWhile_append_of_pos hname, List.takeWhile_cons_of_neg (by simp), List.append_nil]
  have hdrop : (name ++ '\x7d' :: rest).dropWhile (· ≠ '\x7d') = '\x7d' :: rest := by
    rw [List.dropWhile_append_of_pos hname, List.dropWhile_cons_of_neg (by simp)]
  obtain ⟨c, others, rfl⟩ := List.exists_cons_of_ne_nil h.nonempty
  unfold name?
  rw [htake, hdrop]

theorem eq_append_of_name? (h : name? s = some (name, rest)) :
    IsName name ∧ s = name ++ '\x7d' :: rest := by
  unfold name? at h
  split at h
  · next c others d rest' htake hdrop =>
    cases h
    have hbrace : d = '\x7d' := by
      have hhead := List.head?_dropWhile_not (fun c : Char => decide (c ≠ '\x7d')) s
      rw [hdrop] at hhead
      simpa using hhead
    refine ⟨⟨List.cons_ne_nil c others, fun hmem => ?_⟩, ?_⟩
    · rw [← htake] at hmem
      simpa using List.mem_takeWhile_imp hmem
    · rw [← List.takeWhile_append_dropWhile (p := fun c : Char => decide (c ≠ '\x7d')) (l := s),
        htake, hdrop, hbrace]
  · cases h

/-- A name reaches up to the first closing brace. -/
theorem name?_eq_some_iff :
    name? s = some (name, rest) ↔ IsName name ∧ s = name ++ '\x7d' :: rest := by
  constructor
  · exact eq_append_of_name?
  · rintro ⟨h, rfl⟩
    exact name?_append h rest

theorem written_append (name rest : List Char) :
    written name ++ rest = '$' :: '\x7b' :: (name ++ '\x7d' :: rest) := by
  simp [written]

/-- The placeholder at the front of a text is settled by the text. -/
theorem written_append_inj {name' rest' : List Char} (h : IsName name) (h' : IsName name')
    (heq : written name ++ rest = written name' ++ rest') : name = name' ∧ rest = rest' := by
  rw [written_append, written_append] at heq
  have hread := name?_append h rest
  rw [(List.cons.inj (List.cons.inj heq).2).2, name?_append h' rest'] at hread
  cases hread
  exact ⟨rfl, rfl⟩

/-- Where a placeholder starts, what becomes of it comes first. -/
theorem substitute_placeholder (h : IsName name) (rest : List Char) :
    substitute value (written name ++ rest) =
      (Piece.placeholder name).become value ++ substitute value rest := by
  rw [written_append, substitute]
  split
  · next name' rest' hread =>
    rw [name?_append h rest] at hread
    cases hread
    cases hvalue : value (String.ofList name) <;> simp [Piece.become, written, hvalue]
  · next hread =>
    rw [name?_append h rest] at hread
    cases hread

/-- Where none starts, the first character stays. -/
theorem substitute_other (h : StartsNone (c :: s)) :
    substitute value (c :: s) = c :: substitute value s := by
  by_cases hopens : ∃ t, c = '$' ∧ s = '\x7b' :: t
  · obtain ⟨t, rfl, rfl⟩ := hopens
    rw [substitute]
    split
    · next name rest hread =>
      obtain ⟨hname, rfl⟩ := name?_eq_some_iff.mp hread
      exact absurd (written_append name rest).symm (h name rest hname)
    · rfl
  · rw [substitute]
    rintro t rfl rfl
    exact hopens ⟨t, rfl, rfl⟩

/-! ## All pieces -/

/-- Every text has pieces. -/
theorem exists_scans (s : List Char) : ∃ pieces, Scans s pieces := by
  -- on the length, for a placeholder takes more than one character away
  induction hlength : s.length using Nat.strong_induction_on generalizing s with
  | _ length ih =>
    subst hlength
    cases s with
    | nil => exact ⟨[], .nil⟩
    | cons c s =>
      by_cases hstarts : StartsNone (c :: s)
      · obtain ⟨pieces, hpieces⟩ := ih s.length (by simp) s rfl
        exact ⟨_, .other hstarts hpieces⟩
      · unfold StartsNone at hstarts
        push Not at hstarts
        obtain ⟨name, rest, hname, heq⟩ := hstarts
        have hshorter : rest.length < (c :: s).length := by
          rw [heq, List.length_append]
          simp [written]
        obtain ⟨pieces, hpieces⟩ := ih rest.length hshorter rest rfl
        rw [heq]
        exact ⟨_, .placeholder hname hpieces⟩

/-- There are no other ones. -/
theorem Scans.unique {pieces pieces' : List Piece} (h : Scans s pieces) (h' : Scans s pieces') :
    pieces' = pieces := by
  induction h generalizing pieces' with
  | nil =>
    generalize hs : ([] : List Char) = s at h'
    cases h' with
    | nil => rfl
    | placeholder | other => cases hs
  | @placeholder name rest pieces isName behind ih =>
    generalize hs : written name ++ rest = s at h'
    cases h' with
    | nil => cases hs
    | placeholder isName' behind' =>
      obtain ⟨rfl, rfl⟩ := written_append_inj isName isName' hs
      rw [ih behind']
    | other none => exact absurd hs.symm (none name rest isName)
  | @other c s pieces none behind ih =>
    generalize hs : c :: s = t at h'
    cases h' with
    | nil => cases hs
    | placeholder isName' => exact absurd hs (none _ _ isName')
    | other _ behind' =>
      cases hs
      rw [ih behind']

/-- A text becomes what its pieces become. -/
theorem Scans.substitute_eq {pieces : List Piece} (h : Scans s pieces)
    (value : String → Option String) : substitute value s = pieces.flatMap (Piece.become value) := by
  induction h with
  | nil =>
    rw [substitute]
    rfl
  | placeholder isName _ ih => rw [substitute_placeholder isName, ih, List.flatMap_cons]
  | other none _ ih =>
    rw [substitute_other none, ih, List.flatMap_cons]
    rfl

/-- Without values, the pieces make up the text. -/
theorem Scans.flatMap_become_none {pieces : List Piece} (h : Scans s pieces) :
    pieces.flatMap (Piece.become fun _ => none) = s := by
  induction h with
  | nil => rfl
  | placeholder _ _ ih =>
    rw [List.flatMap_cons, ih]
    rfl
  | other _ _ ih =>
    rw [List.flatMap_cons, ih]
    rfl

/-- Pieces become the same where the names of their placeholders have the same values. -/
theorem flatMap_become_congr {pieces : List Piece}
    (h : ∀ name, .placeholder name ∈ pieces →
      value' (String.ofList name) = value (String.ofList name)) :
    pieces.flatMap (Piece.become value') = pieces.flatMap (Piece.become value) := by
  refine List.flatMap_congr fun piece hpiece => ?_
  cases piece with
  | placeholder name =>
    unfold Piece.become
    simp only [h name hpiece]
  | other => rfl

/-- **A text is gone through once, and its pieces do not depend on the values.** It becomes what the
pieces become, so a value stands in it as it is, whatever it holds, between what comes of the pieces
before it and of those after it. A text whose placeholders have no values stays the same, and values
that agree on the placeholders make the same text. -/
theorem substitute_single_pass (s : List Char) :
    ∃ pieces, (∀ other, Scans s other ↔ other = pieces) ∧
      (∀ value, substitute value s = pieces.flatMap (Piece.become value)) ∧
      (∀ value before name after v, pieces = before ++ .placeholder name :: after →
        value (String.ofList name) = some v →
        substitute value s = before.flatMap (Piece.become value) ++ v.toList ++
          after.flatMap (Piece.become value)) ∧
      (∀ value, (∀ name, .placeholder name ∈ pieces → value (String.ofList name) = none) →
        substitute value s = s) ∧
      ∀ value value', (∀ name, .placeholder name ∈ pieces →
        value' (String.ofList name) = value (String.ofList name)) →
        substitute value' s = substitute value s := by
  -- all of it follows from the one way to scan the text
  obtain ⟨pieces, hpieces⟩ := exists_scans s
  refine ⟨pieces, fun other => ⟨hpieces.unique, fun h => h ▸ hpieces⟩, hpieces.substitute_eq,
    fun value before name after v hsplit hvalue => ?_, fun value hnone => ?_,
    fun value value' hagree => ?_⟩
  · have hplaceholder : (Piece.placeholder name).become value = v.toList := by
      simp [Piece.become, hvalue]
    rw [hpieces.substitute_eq, hsplit, List.flatMap_append, List.flatMap_cons, hplaceholder,
      List.append_assoc]
  · have hcongr : pieces.flatMap (Piece.become value) =
        pieces.flatMap (Piece.become fun _ => none) := flatMap_become_congr hnone
    rw [hpieces.substitute_eq, hcongr, hpieces.flatMap_become_none]
  · rw [hpieces.substitute_eq, hpieces.substitute_eq, flatMap_become_congr hagree]

/-- A name may hold an opening of its own, and a value may look like a placeholder: neither is gone
through again. -/
theorem substitute_nested :
    substitute (fun name => if name = "a$\x7bb" then some "$\x7bb\x7d $1 \x7d" else none)
      "$\x7ba$\x7bb\x7dc".toList = "$\x7bb\x7d $1 \x7dc".toList := by
  have isName : IsName "a$\x7bb".toList := ⟨by decide, by decide⟩
  have none : StartsNone ['c'] := by
    intro name rest _ heq
    rw [written_append] at heq
    cases heq
  obtain ⟨pieces, scans, -, inserted, -⟩ := substitute_single_pass "$\x7ba$\x7bb\x7dc".toList
  have hpieces := (scans _).mp (.placeholder isName (.other none .nil))
  rw [inserted _ [] _ _ _ hpieces.symm (if_pos rfl)]
  rfl

end ChainBroker.Placeholder
