import ChainBroker.Proofs.JsonGrammar
import ChainBroker.Proofs.ToolRequest

/-!
# Members by their names

What a tool puts out, and what a bind is asked for, are objects whose members are found by their
names. Which of them are read does not depend on the order of the members, nor on members of other
names, whatever values these have, nor on the blanks between them (`objects_by_names`).

1. A reader *judges* trees (`Judges`): it takes a value from those of the right kind, wherever they
   stand, and stops with a fault at all others.
2. A record of a shape is read as what its members make of a draft (`fill`, `members_derives`).
3. They make something of it if each name that is known comes once at most, with a value of the
   right kind (`isSome_fill_iff`), and then it has what stands under the name (`fill_get`).
-/

namespace ChainBroker

namespace Json

open Utf8 (Piece)

variable {α β σ : Type}

/-! ## Readers that judge -/

/-- The reading ends with a value and leaves the rest, or it stops with a fault. -/
def Gives {bound : Nat} (reading : Except Fault (Taken bound α)) : Option α → Source → Prop
  | some a, rest => Yields reading a rest
  | none, _ => ∃ fault, reading = .error fault

/-- Wherever a value stands, the reader takes from it what is taken from its tree. -/
def Judges (r : Reader α) (take : Tree → Option α) : Prop :=
  ∀ t l blanks rest, Derives (.value t) l → Blank blanks → Stops rest →
    Gives (r (blanks.map .char ++ (l.map .char ++ rest))) (take t) rest

/-- The text that a tree is. -/
def Tree.text? : Tree → Option String
  | .text s => some s
  | _ => none

/-- The texts that a tree lists. -/
def Tree.texts? : Tree → Option (List String)
  | .list ts => ts.mapM Tree.text?
  | _ => none

/-- Null is taken as nothing. -/
def Tree.orNull (take : Tree → Option α) : Tree → Option (Option α)
  | .null => some none
  | t => (take t).map some

theorem leading_error {read : Piece → Reader α} {s t : Source} {p : Piece}
    (h : skipBlanks s = p :: t) {fault : Fault} (hread : read p t = .error fault) :
    leading read s = .error fault := by
  unfold leading
  split
  · next h' => cases h.symm.trans h'
  · next h' =>
    cases h.symm.trans h'
    rw [hread]

/-- What is done with a value afterwards has no part in whether there is one. -/
theorem Gives.map {bound : Nat} {reading : Except Fault (Taken bound α)} {a : Option α}
    {rest : Source} (h : Gives reading a rest) (f : α → β) :
    Gives (reading.map fun t => t.map f) (a.map f) rest := by
  cases a with
  | none =>
    obtain ⟨fault, rfl⟩ := h
    exact ⟨fault, rfl⟩
  | some a =>
    obtain ⟨shorter, rfl⟩ := h
    exact ⟨shorter, rfl⟩

theorem Gives.leading {read : Piece → Reader α} {s t : Source} {p : Piece}
    (hskip : skipBlanks s = p :: t) {a : Option α} {rest : Source} (h : Gives (read p t) a rest) :
    Gives (leading read s) a rest := by
  cases a with
  | none =>
    obtain ⟨fault, h⟩ := h
    exact ⟨fault, leading_error hskip h⟩
  | some a => exact leading_yields hskip h

/-- A value that does not start as `null` does is read as one that may not be missing. -/
theorem nullable_of_ne (r : Reader α) {s t : Source} {p : Piece} (h : skipBlanks s = p :: t)
    (hp : p ≠ .char 'n') : nullable r s = (r s).map fun t => t.map some := by
  unfold nullable
  split
  · next h' =>
    cases h.symm.trans h'
    exact absurd rfl hp
  · cases r s <;> rfl

/-- A text, and nothing but a text, is read as one. -/
theorem judges_textValue : Judges textValue Tree.text? := by
  intro t l blanks rest h hblanks _
  have hskip := h.skipBlanks_append hblanks rest
  by_cases htext : ∃ s, t = .text s
  · obtain ⟨s, rfl⟩ := htext
    cases h with
    | text hspelled =>
      rw [List.map_cons, List.map_append, List.cons_append, List.append_assoc]
      exact textValue_spelled hblanks hspelled rest
  · obtain ⟨c, l, rfl, starts⟩ := h.exists_starts
    have hnone : t.text? = none := by
      cases t with
      | text s => exact absurd ⟨s, rfl⟩ htext
      | _ => rfl
    have hc : Piece.char c ≠ .char '"' := by simpa using mt starts.text.mp htext
    rw [hnone]
    exact ⟨_, leading_error hskip (if_neg hc)⟩

/-- Where a value may be missing, `null` is read besides what is read otherwise. -/
theorem Judges.nullable {r : Reader α} {take : Tree → Option α} (h : Judges r take) :
    Judges (Json.nullable r) (Tree.orNull take) := by
  intro t l blanks rest hderives hblanks stops
  have hskip := hderives.skipBlanks_append hblanks rest
  -- of all values only `null` starts with its first letter
  by_cases hnull : t = .null
  · subst hnull
    cases hderives
    obtain ⟨h1, hword⟩ := word_append ['u', 'l', 'l'] rest
    refine ⟨Nat.lt_of_le_of_lt h1 (length_lt_of_skipBlanks hskip), ?_⟩
    unfold Json.nullable
    split
    · next h' =>
      cases hskip.symm.trans h'
      split
      · next h' => cases hword.symm.trans h'
      · next h' =>
        cases hword.symm.trans h'
        rfl
    · next hne => exact absurd hskip (hne _)
  · obtain ⟨c, l, rfl, starts⟩ := hderives.exists_starts
    have htake : Tree.orNull take t = (take t).map some := by
      cases t with
      | null => exact absurd rfl hnull
      | _ => rfl
    have hn : Piece.char c ≠ .char 'n' := by simpa using mt starts.null.mp hnull
    rw [htake, nullable_of_ne r hskip hn]
    exact (h t _ blanks rest hderives hblanks stops).map some

/-! ## Lists -/

/-- A list fails at the first item that is not read. -/
theorem items_item_error {item : Reader α} {first : Bool} {s t : Source} {fault : Fault}
    (hnext : ∃ shorter, nextItem first s = .ok (some ⟨t, shorter⟩))
    (hitem : item t = .error fault) : items item first s = .error fault := by
  obtain ⟨h1, hnext⟩ := hnext
  rw [items]
  simp only [hnext, hitem]

/-- So it does where that is one of the others. -/
theorem items_others_error {item : Reader α} {first : Bool} {s t u : Source} {a : α} {fault : Fault}
    (hnext : ∃ shorter, nextItem first s = .ok (some ⟨t, shorter⟩)) (hitem : Yields (item t) a u)
    (hothers : items item false u = .error fault) : items item first s = .error fault := by
  obtain ⟨h1, hnext⟩ := hnext
  obtain ⟨h2, hitem⟩ := hitem
  rw [items]
  simp only [hnext, hitem, hothers]

/-- The next item starts behind its separator, apart from some blanks. -/
theorem nextItem_derives {first : Bool} {t : Tree} {separator value : List Char}
    (hseparator : Separates first separator) (hvalue : Derives (.value t) value) (rest : Source) :
    ∃ blanks, Blank blanks ∧ ∃ shorter,
      nextItem first (separator.map Piece.char ++ (value.map Piece.char ++ rest)) =
        .ok (some ⟨blanks.map Piece.char ++ (value.map Piece.char ++ rest), shorter⟩) := by
  obtain ⟨c, l, rfl, starts⟩ := hvalue.exists_starts
  have hne : Piece.char c ≠ .char ']' := by simpa using starts.notClosing
  cases hseparator with
  | first hblanks =>
    have hskip := skipBlanks_append hblanks starts.notSpace (l.map .char ++ rest)
    exact ⟨separator, hblanks, _, nextItem_first hskip hne⟩
  | @next before after hbefore hafter =>
    have hskip := skipBlanks_append hafter starts.notSpace (l.map .char ++ rest)
    rw [List.map_append, List.append_assoc]
    exact ⟨after, hafter, nextItem_comma (skipBlanks_append hbefore rfl _) hskip hne⟩

/-- The items before the closing bracket are judged one by one. -/
theorem items_derives {item : Reader α} {take : Tree → Option α} (judges : Judges item take)
    {first : Bool} {ts : List Tree} {l : List Char} (h : Derives (.items first ts) l)
    (rest : Source) : Gives (items item first (l.map .char ++ rest)) (ts.mapM take) rest := by
  induction ts generalizing first l with
  | nil =>
    cases h with
    | noItem hblanks =>
      refine items_closing item first ?_
      rw [List.map_append, List.append_assoc]
      exact skipBlanks_append hblanks rfl rest
  | cons t ts ih =>
    cases h with
    | @item _ _ _ separator value others hseparator hvalue hothers =>
      obtain ⟨blanks, hblanks, hnext⟩ :=
        nextItem_derives hseparator hvalue (others.map .char ++ rest)
      rw [List.map_append, List.append_assoc, List.map_append, List.append_assoc]
      have hitem := judges t value blanks _ hvalue hblanks (hothers.stops_items rest)
      rw [List.mapM_cons]
      -- the first item is not taken, or one of the others is not, or all are
      cases htaken : take t with
      | none =>
        rw [htaken] at hitem
        obtain ⟨fault, hitem⟩ := hitem
        exact ⟨fault, items_item_error hnext hitem⟩
      | some a =>
        rw [htaken] at hitem
        have hrest := ih hothers
        cases hmany : ts.mapM take with
        | none =>
          rw [hmany] at hrest
          obtain ⟨fault, hrest⟩ := hrest
          exact ⟨fault, items_others_error hnext hitem hrest⟩
        | some as =>
          rw [hmany] at hrest
          exact items_item hnext hitem hrest

/-- A list is read if all its items are. -/
theorem judges_listOf {item : Reader α} {take : Tree → Option α} (judges : Judges item take) :
    Judges (listOf item) fun t => match t with | .list ts => ts.mapM take | _ => none := by
  intro t l blanks rest h hblanks _
  have hskip := h.skipBlanks_append hblanks rest
  obtain ⟨c, l, rfl, starts⟩ := h.exists_starts
  by_cases hlist : ∃ ts, t = .list ts
  · obtain ⟨ts, rfl⟩ := hlist
    cases h with
    | list hitems =>
      refine Gives.leading hskip ?_
      rw [if_pos rfl]
      exact items_derives judges hitems rest
  · have hc : Piece.char c ≠ .char '[' := by simpa using mt starts.list.mp hlist
    cases t with
    | list ts => exact absurd ⟨ts, rfl⟩ hlist
    | _ => exact ⟨_, leading_error hskip (if_neg hc)⟩

/-- A list of texts, and nothing else, is read as one. -/
theorem judges_texts : Judges (listOf textValue) Tree.texts? := by
  have h := judges_listOf judges_textValue
  intro t l blanks rest hderives hblanks stops
  have hread := h t l blanks rest hderives hblanks stops
  cases t <;> exact hread

/-! ## Records -/

/-- What a tree does to a draft under a name, if it is of the right kind. -/
abbrev Taking (σ : Type) : Type := String → Tree → Option (σ → σ)

/-- What one member makes of a draft. A member of an unknown name makes nothing of it, and one of a
known name must not be there yet. -/
def put? (shape : Shape σ) (take : Taking σ) (draft : σ) (name : String) (t : Tree) : Option σ :=
  match shape.fields.find? (·.name == name) with
  | none => some draft
  | some field => if field.given draft then none else (take name t).map (· draft)

/-- What members make of a draft. -/
def fill (shape : Shape σ) (take : Taking σ) (draft : σ) : List (String × Tree) → Option σ
  | [] => some draft
  | (name, t) :: ms => (put? shape take draft name t).bind (fill shape take · ms)

/-- Each field of the shape is optional, and what it reads is what is taken. -/
structure Judged (shape : Shape σ) (take : Taking σ) : Prop where
  reads : ∀ name field, shape.fields.find? (·.name == name) = some field →
    ∀ draft, Judges (field.read draft) fun t => (take name t).map (· draft)
  optional : ∀ draft,
    (shape.fields.find? fun f => f.need = .required && !f.given draft) = none

/-- A field takes what its reader takes. -/
theorem judges_field {name : String} {need : Need} {r : Reader α} {get : σ → Option α}
    {put : σ → α → σ} {take : Tree → Option α} (h : Judges r take) (draft : σ) :
    Judges ((Field.of name need r get put).read draft) fun t => (take t).map (put draft) := by
  intro t l blanks rest hderives hblanks stops
  exact (h t l blanks rest hderives hblanks stops).map (put draft)

variable {shape : Shape σ} {take : Taking σ}

/-- Whether a member is taken is seen from the draft, the name and the value, not from how it is
written. -/
theorem member_derives (judged : Judged shape take) (draft : σ) (name : String) {t : Tree}
    {before after value : List Char} (hbefore : Blank before) (hafter : Blank after)
    (hvalue : Derives (.value t) value) {rest : Source} (stops : Stops rest) :
    Gives (member shape draft name (before.map .char ++ .char ':' ::
      (after.map .char ++ (value.map .char ++ rest)))) (put? shape take draft name t) rest := by
  obtain ⟨h1, hcolon⟩ := afterColon_colon (skipBlanks_append hbefore (p := .char ':') rfl
    (after.map .char ++ (value.map .char ++ rest)))
  unfold put? member
  -- a member of another name is skipped, and one of a field is read by it
  cases found : shape.fields.find? (·.name == name) with
  | none =>
    obtain ⟨h2, hskip⟩ := skipValue_derives hvalue hafter stops
    refine ⟨h2.trans h1, ?_⟩
    simp only [hcolon, hskip]
    rfl
  | some field =>
    simp only
    cases given : field.given draft with
    | true => exact ⟨_, rfl⟩
    | false =>
      have hread := judged.reads name field found draft t value after rest hvalue hafter stops
      simp only [hcolon]
      cases htaken : (take name t).map (· draft) with
      | none =>
        simp only [htaken] at hread
        obtain ⟨fault, hread⟩ := hread
        refine ⟨fault, ?_⟩
        simp only [hread]
        rfl
      | some next =>
        simp only [htaken] at hread
        obtain ⟨h2, hread⟩ := hread
        refine ⟨h2.trans h1, ?_⟩
        simp only [hread]
        rfl

/-- A record fails at the first member that is not taken. -/
theorem members_error {draft : σ} {first : Bool} {s t u : Source} {name : String} {fault : Fault}
    (hnext : ∃ shorter, nextMember first s = .ok (some ⟨t, shorter⟩))
    (hname : Yields (openText t) name u) (hmember : member shape draft name u = .error fault) :
    members shape draft first s = .error fault := by
  obtain ⟨h1, hnext⟩ := hnext
  obtain ⟨h2, hname⟩ := hname
  rw [members]
  simp only [hnext, hname, hmember]

/-- So it does where that is one of the others. -/
theorem members_others_error {draft next : σ} {first : Bool} {s t u v : Source} {name : String}
    {fault : Fault} (hnext : ∃ shorter, nextMember first s = .ok (some ⟨t, shorter⟩))
    (hname : Yields (openText t) name u) (hmember : Yields (member shape draft name u) next v)
    (hothers : members shape next false v = .error fault) :
    members shape draft first s = .error fault := by
  obtain ⟨h1, hnext⟩ := hnext
  obtain ⟨h2, hname⟩ := hname
  obtain ⟨h3, hmember⟩ := hmember
  rw [members]
  simp only [hnext, hname, hmember, hothers]

/-- Members are read as what they make of the draft, whatever unknown ones are among them. -/
theorem members_derives (judged : Judged shape take) {first : Bool} {ms : List (String × Tree)}
    {l : List Char} (h : Derives (.members first ms) l) (draft : σ) (rest : Source) :
    Gives (members shape draft first (l.map .char ++ rest)) (fill shape take draft ms) rest := by
  induction ms generalizing first l draft with
  | nil =>
    cases h with
    | noMember hblanks =>
      refine members_closing first (judged.optional draft) ?_
      rw [List.map_append, List.append_assoc]
      exact skipBlanks_append hblanks rfl rest
  | cons m ms ih =>
    cases h with
    | @member _ name t _ separator spelledName before after value others hseparator hname hbefore
        hafter hvalue hothers =>
      rw [map_derivedMember]
      have hnext := nextMember_separated hseparator (spelledName.map .char ++ .char '"' ::
        (before.map .char ++ .char ':' :: (after.map .char ++ (value.map .char ++
          (others.map .char ++ rest)))))
      have htext := openText_spelled hname (before.map .char ++ .char ':' :: (after.map .char ++
        (value.map .char ++ (others.map .char ++ rest))))
      have hmember := member_derives judged draft name hbefore hafter hvalue
        (hothers.stops_members rest)
      rw [fill]
      -- the first member is not taken, or one of the others is not, or all are
      cases hput : put? shape take draft name t with
      | none =>
        rw [hput] at hmember
        obtain ⟨fault, hmember⟩ := hmember
        exact ⟨fault, members_error hnext htext hmember⟩
      | some next =>
        rw [hput] at hmember
        have hrest := ih hothers next
        rw [Option.bind_some]
        cases hfill : fill shape take next ms with
        | none =>
          rw [hfill] at hrest
          obtain ⟨fault, hrest⟩ := hrest
          exact ⟨fault, members_others_error hnext htext hmember hrest⟩
        | some final =>
          rw [hfill] at hrest
          exact members_member hnext htext hmember hrest

/-- A text that is an object with the members, as anyone may write it. -/
inductive ObjectText (ms : List (String × Tree)) : String → Prop where
  /-- Blanks may stand around it. -/
  | object {before l after : List Char} (hbefore : Blank before)
    (h : Derives (.value (.record ms)) l) (hafter : Blank after) :
    ObjectText ms (String.ofList (before ++ (l ++ after)))

theorem skipBlanks_blank {blanks : List Char} (h : Blank blanks) :
    skipBlanks (blanks.map .char) = [] := by
  unfold skipBlanks
  rw [List.dropWhile_eq_nil_iff, List.forall_mem_map]
  exact h

/-- A record is read as what its members make of a blank draft. -/
theorem judges_recordOf (judged : Judged shape take) (blank : σ) {ms : List (String × Tree)}
    {l blanks : List Char} (h : Derives (.value (.record ms)) l) (hblanks : Blank blanks)
    (rest : Source) :
    Gives (recordOf shape blank (blanks.map .char ++ (l.map .char ++ rest)))
      (fill shape take blank ms) rest := by
  have hskip := h.skipBlanks_append hblanks rest
  cases h with
  | record hmembers =>
    refine Gives.leading hskip ?_
    rw [if_pos rfl]
    exact members_derives judged hmembers blank rest

/-- A whole document that is an object is read as what its members make of a blank draft. -/
theorem decode_object (judged : Judged shape take) (blank : σ) {ms : List (String × Tree)}
    {document : String} (h : ObjectText ms document) :
    (decode (recordOf shape blank) (Utf8.ofText document)).toOption = fill shape take blank ms := by
  cases h with
  | @object before l after hbefore h hafter =>
    have hread := judges_recordOf judged blank h hbefore (after.map .char)
    unfold decode Utf8.ofText
    rw [String.toList_ofList, List.map_append, List.map_append]
    cases hfill : fill shape take blank ms with
    | none =>
      rw [hfill] at hread
      obtain ⟨fault, hread⟩ := hread
      rw [hread]
      rfl
    | some final =>
      rw [hfill] at hread
      obtain ⟨shorter, hread⟩ := hread
      rw [hread]
      simp only [skipBlanks_blank hafter]
      rfl

/-- An object is not null. -/
theorem decode_nullable_object (r : Reader α) {ms : List (String × Tree)} {document : String}
    (h : ObjectText ms document) :
    decode (nullable r) (Utf8.ofText document) = (decode r (Utf8.ofText document)).map some := by
  cases h with
  | @object before l after hbefore h hafter =>
    have hskip := h.skipBlanks_append hbefore (after.map .char)
    cases h with
    | record =>
      rw [← decode_map]
      unfold decode Utf8.ofText
      rw [String.toList_ofList, List.map_append, List.map_append,
        nullable_of_ne r hskip (by decide)]

/-! ## What members make of a draft -/

theorem mem_of_find?_name {name : String} {field : Field σ}
    (h : shape.fields.find? (·.name == name) = some field) :
    field ∈ shape.fields ∧ field.name = name :=
  ⟨List.mem_of_find?_eq_some h, by simpa using List.find?_some h⟩

/-- A value that is put into a draft is there afterwards, and all other fields are as before. -/
structure Independent (shape : Shape σ) (take : Taking σ) : Prop where
  own : ∀ name field t put draft, shape.fields.find? (·.name == name) = some field →
    take name t = some put → field.given (put draft) = true
  other : ∀ name field t put draft name' field', shape.fields.find? (·.name == name) = some field →
    take name t = some put → shape.fields.find? (·.name == name') = some field' → name' ≠ name →
    field'.given (put draft) = field'.given draft

/-- A member of another name changes nothing. -/
theorem put?_of_unknown {draft : σ} {name : String} {t : Tree}
    (h : shape.fields.find? (·.name == name) = none) :
    put? shape take draft name t = some draft := by
  unfold put?
  rw [h]

/-- A member of a field is taken once, and only with a value that the field takes. -/
theorem put?_of_known {draft : σ} {name : String} {t : Tree} {field : Field σ}
    (h : shape.fields.find? (·.name == name) = some field) :
    put? shape take draft name t =
      if field.given draft then none else (take name t).map (· draft) := by
  unfold put?
  rw [h]

/-- A member that is taken either has another name or gives a field that was not given before. -/
theorem of_put?_eq_some {draft next : σ} {name : String} {t : Tree}
    (h : put? shape take draft name t = some next) :
    (shape.fields.find? (·.name == name) = none ∧ next = draft) ∨
      ∃ field put, shape.fields.find? (·.name == name) = some field ∧
        field.given draft = false ∧ take name t = some put ∧ next = put draft := by
  cases known : shape.fields.find? (·.name == name) with
  | none =>
    rw [put?_of_unknown known] at h
    cases h
    exact .inl ⟨rfl, rfl⟩
  | some field =>
    rw [put?_of_known known] at h
    cases given : field.given draft with
    | true =>
      rw [given] at h
      cases h
    | false =>
      rw [given] at h
      obtain ⟨put, htake, rfl⟩ := Option.map_eq_some_iff.mp h
      exact .inr ⟨field, put, rfl, given, htake, rfl⟩

/-- The name comes once at most. -/
def AtMostOnce (name : String) (ms : List (String × Tree)) : Prop :=
  (ms.map Prod.fst).count name ≤ 1

/-- No name that is known comes more than once, counting what the draft has already, and none comes
with a value of another kind. -/
def Fits (shape : Shape σ) (take : Taking σ) (draft : σ) (ms : List (String × Tree)) : Prop :=
  ∀ name field, shape.fields.find? (·.name == name) = some field →
    (ms.map Prod.fst).count name + (field.given draft).toNat ≤ 1 ∧
      ∀ t, (name, t) ∈ ms → (take name t).isSome = true

theorem fits_nil (draft : σ) : Fits shape take draft [] :=
  fun _ _ _ => ⟨by simpa using Bool.toNat_le _, fun _ h => absurd h List.not_mem_nil⟩

/-- A member changes nothing for the other names. -/
theorem count_and_mem_of_ne {name other : String} (hne : other ≠ name) (t : Tree)
    (ms : List (String × Tree)) :
    (((name, t) :: ms).map Prod.fst).count other = (ms.map Prod.fst).count other ∧
      ∀ u, (other, u) ∈ (name, t) :: ms ↔ (other, u) ∈ ms :=
  ⟨List.count_cons_of_ne (Ne.symm hne), fun u => by simp [hne]⟩

/-- A member of another name has no part in whether a record fits. -/
theorem fits_cons_of_unknown {name : String} (t : Tree) {draft : σ} {ms : List (String × Tree)}
    (h : shape.fields.find? (·.name == name) = none) :
    Fits shape take draft ((name, t) :: ms) ↔ Fits shape take draft ms := by
  refine forall_congr' fun other => forall_congr' fun field => imp_congr_right fun hother => ?_
  have hne : other ≠ name := by
    rintro rfl
    cases h.symm.trans hother
  simp only [count_and_mem_of_ne hne]

/-- A name that the draft has already must not come again. -/
theorem not_fits_cons_of_given {name : String} {t : Tree} {draft : σ} {ms : List (String × Tree)}
    {field : Field σ} (known : shape.fields.find? (·.name == name) = some field)
    (given : field.given draft = true) : ¬Fits shape take draft ((name, t) :: ms) := by
  intro h
  have hcount := (h name field known).1
  rw [List.map_cons, List.count_cons_self, given, Bool.toNat_true] at hcount
  omega

/-- A member of the right kind may come if the name has not come before, and not after it. -/
theorem fits_cons_of_take (independent : Independent shape take) {name : String} {t : Tree}
    {draft : σ} {ms : List (String × Tree)} {field : Field σ}
    (known : shape.fields.find? (·.name == name) = some field) (free : field.given draft = false)
    {put : σ → σ} (htake : take name t = some put) :
    Fits shape take draft ((name, t) :: ms) ↔ Fits shape take (put draft) ms := by
  refine forall_congr' fun other => forall_congr' fun field' => imp_congr_right fun hother => ?_
  by_cases hne : other = name
  · subst hne
    cases known.symm.trans hother
    rw [independent.own other field t put draft known htake, free, List.map_cons,
      List.count_cons_self]
    simp [htake]
  · rw [independent.other name field t put draft other field' known htake hother hne]
    simp only [count_and_mem_of_ne hne]

/-- A draft is filled exactly by the members that fit it. -/
theorem isSome_fill_iff (independent : Independent shape take) {ms : List (String × Tree)}
    {draft : σ} : (fill shape take draft ms).isSome = true ↔ Fits shape take draft ms := by
  induction ms generalizing draft with
  | nil => exact iff_of_true rfl (fits_nil draft)
  | cons m ms ih =>
    obtain ⟨name, t⟩ := m
    rw [fill]
    cases known : shape.fields.find? (·.name == name) with
    | none => rw [put?_of_unknown known, Option.bind_some, ih, fits_cons_of_unknown t known]
    | some field =>
      rw [put?_of_known known]
      cases given : field.given draft with
      | true => exact iff_of_false Bool.false_ne_true (not_fits_cons_of_given known given)
      | false =>
        cases htake : take name t with
        | none =>
          refine iff_of_false Bool.false_ne_true fun h => ?_
          have hsome := (h name field known).2 t List.mem_cons_self
          rw [htake] at hsome
          cases hsome
        | some put =>
          rw [if_neg Bool.false_ne_true, Option.map_some, Option.bind_some, ih,
            fits_cons_of_take independent known given htake]

/-- Members make something of a blank draft if each name that is known comes once at most, with a
value of the right kind. -/
theorem isSome_fill_blank_iff (independent : Independent shape take) (blank : σ)
    (free : ∀ field ∈ shape.fields, field.given blank = false) (ms : List (String × Tree)) :
    (fill shape take blank ms).isSome = true ↔
      ∀ name ∈ shape.fields.map Field.name,
        AtMostOnce name ms ∧ ∀ t, (name, t) ∈ ms → (take name t).isSome = true := by
  rw [isSome_fill_iff independent]
  constructor
  · intro h name hname
    obtain ⟨field, hmem, rfl⟩ := List.mem_map.mp hname
    have hsome : (shape.fields.find? (·.name == field.name)).isSome = true :=
      List.find?_isSome.mpr ⟨field, hmem, beq_self_eq_true _⟩
    obtain ⟨found, hfound⟩ := Option.isSome_iff_exists.mp hsome
    obtain ⟨hcount, hkind⟩ := h field.name found hfound
    exact ⟨Nat.le_of_add_right_le hcount, hkind⟩
  · intro h name field hfound
    obtain ⟨hmem, rfl⟩ := mem_of_find?_name hfound
    rw [free field hmem]
    exact h field.name (List.mem_map_of_mem hmem)

/-- What a field has in the end stands under its name, unless the draft has had it before. -/
theorem fill_get {name : String} {field : Field σ} (get : σ → Option β)
    {takeOne : Tree → Option β} (known : shape.fields.find? (·.name == name) = some field)
    (given : ∀ draft, field.given draft = (get draft).isSome)
    (own : ∀ t put, take name t = some put →
      ∃ a, takeOne t = some a ∧ ∀ draft, get (put draft) = some a)
    (other : ∀ name' t put draft, name' ≠ name → take name' t = some put →
      get (put draft) = get draft)
    {ms : List (String × Tree)} {draft final : σ} (h : fill shape take draft ms = some final) :
    get final = (get draft).or ((ms.lookup name).bind takeOne) := by
  -- by induction on the members: the first one with the name counts, and no other gives it
  induction ms generalizing draft with
  | nil =>
    cases h
    simp
  | cons m ms ih =>
    obtain ⟨name', t⟩ := m
    rw [fill] at h
    obtain ⟨next, hput, h⟩ := Option.bind_eq_some_iff.mp h
    rw [ih h, lookup_cons_eq_ite]
    rcases of_put?_eq_some hput with ⟨unknown, rfl⟩ | ⟨field', put, known', free, htake, rfl⟩
    · rw [if_neg]
      rintro rfl
      cases unknown.symm.trans known
    · by_cases hname : name = name'
      · subst hname
        cases known.symm.trans known'
        have hget : get draft = none := by simpa [given] using free
        obtain ⟨a, htakeOne, hput⟩ := own t put htake
        rw [hput, hget, if_pos rfl, Option.bind_some, htakeOne]
        rfl
      · rw [if_neg hname, other name' t put draft (Ne.symm hname) htake]

/-- A value is read off an object if the members make it of a blank draft. -/
theorem decode_object_eq_ok_iff (judged : Judged shape take) (blank : σ) (f : σ → α)
    {ms : List (String × Tree)} {document : String} (h : ObjectText ms document) {a : α} :
    decode (fun s => (recordOf shape blank s).map fun t => t.map f) (Utf8.ofText document) = .ok a ↔
      ∃ final, fill shape take blank ms = some final ∧ f final = a := by
  rw [decode_map, ← decode_object judged blank h]
  cases decode (recordOf shape blank) (Utf8.ofText document) with
  | error fault => simp [Except.map, Except.toOption]
  | ok final => simp [Except.map, Except.toOption]

/-- The text under a name, empty if there is none. -/
def textUnder (name : String) (ms : List (String × Tree)) : String :=
  ((ms.lookup name).bind Tree.text?).getD ""

theorem text?_eq_some_iff {t : Tree} {s : String} : t.text? = some s ↔ t = .text s := by
  cases t <;> simp [Tree.text?]

/-- Where a text may be missing, `null` and texts are taken. -/
theorem isSome_orNull_text?_iff {t : Tree} :
    (Tree.orNull Tree.text? t).isSome = true ↔ t = .null ∨ ∃ s, t = .text s := by
  cases t <;> simp [Tree.orNull, Tree.text?]

/-- Null and a value of another kind are no text. -/
theorem getD_orNull_text? (t : Tree) : (Tree.orNull Tree.text? t).getD none = t.text? := by
  cases t <;> rfl

theorem mapM_text?_eq_some_iff {ts : List Tree} {l : List String} :
    ts.mapM Tree.text? = some l ↔ ts = l.map .text := by
  induction ts generalizing l with
  | nil =>
    rw [List.mapM_nil]
    cases l <;> simp
  | cons t ts ih =>
    rw [List.mapM_cons]
    constructor
    · intro h
      obtain ⟨s, hs, h⟩ := Option.bind_eq_some_iff.mp h
      obtain ⟨l, hl, h⟩ := Option.bind_eq_some_iff.mp h
      cases h
      rw [ih.mp hl, text?_eq_some_iff.mp hs, List.map_cons]
    · intro h
      cases l with
      | nil => cases h
      | cons s l =>
        cases h
        rw [ih.mpr rfl]
        rfl

/-- A list of texts is known by its items. -/
theorem texts?_eq_some_iff {t : Tree} {l : List String} :
    t.texts? = some l ↔ t = .list (l.map .text) := by
  cases t <;> simp [Tree.texts?, mapM_text?_eq_some_iff]

end Json

open Json

/-! ## Deployments -/

namespace Deployment

/-- A draft with a text under a name. -/
def Draft.put (d : Draft) (name text : String) : Draft :=
  match name with
  | "address" => { d with account := some text }
  | "abi" => { d with interface := some text }
  | "contract_address" => { d with contractAddress := some text }
  | "gas_price" => { d with gasPrice := some text }
  | "transaction_hash" => { d with transactionHash := some text }
  | _ => d

/-- All fields are texts. -/
def taking : Taking Draft := fun name t => t.text?.map fun text d => d.put name text

theorem map_taking (name : String) (draft : Draft) (t : Tree) :
    (taking name t).map (· draft) = t.text?.map (draft.put name) := by
  unfold taking
  rw [Option.map_map]
  rfl

/-- The fields of a deployment take texts alone. -/
theorem judged_shape : Judged shape taking where
  reads := by
    intro name field found draft
    obtain ⟨hmem, rfl⟩ := mem_of_find?_name found
    simp only [map_taking]
    simp only [shape, List.mem_cons, List.not_mem_nil, or_false] at hmem
    rcases hmem with rfl | rfl | rfl | rfl | rfl
    all_goals exact judges_field judges_textValue draft
  optional := fun _ => rfl

/-- No field of a deployment gives another one. -/
theorem independent_shape : Independent shape taking where
  own := by
    intro name field t put draft found htake
    obtain ⟨text, -, rfl⟩ := Option.map_eq_some_iff.mp htake
    obtain ⟨hmem, rfl⟩ := mem_of_find?_name found
    simp only [shape, List.mem_cons, List.not_mem_nil, or_false] at hmem
    rcases hmem with rfl | rfl | rfl | rfl | rfl <;> rfl
  other := by
    intro name field t put draft name' field' found htake found' hne
    obtain ⟨text, -, rfl⟩ := Option.map_eq_some_iff.mp htake
    obtain ⟨hmem, rfl⟩ := mem_of_find?_name found
    obtain ⟨hmem', rfl⟩ := mem_of_find?_name found'
    simp only [shape, List.mem_cons, List.not_mem_nil, or_false] at hmem hmem'
    rcases hmem with rfl | rfl | rfl | rfl | rfl <;>
      rcases hmem' with rfl | rfl | rfl | rfl | rfl <;>
      first | rfl | exact absurd rfl hne

/-- What was put under a name is found under it. -/
theorem Draft.get_put_self {name : String} (known : name ∈ names) (d : Draft) (text : String) :
    (d.put name text).get name = some text := by
  simp only [names, List.mem_cons, List.not_mem_nil, or_false] at known
  rcases known with rfl | rfl | rfl | rfl | rfl <;> rfl

/-- What stands under other names stays. -/
theorem Draft.get_put_of_ne {name other : String} (hne : other ≠ name) (d : Draft) (text : String) :
    (d.put other text).get name = d.get name := by
  unfold Draft.put
  split <;> unfold Draft.get <;> split <;> simp_all

/-- After all members, under each name stands what the object has under it. -/
theorem get_of_fill {ms : List (String × Tree)} {final : Draft}
    (h : fill shape taking {} ms = some final) {name : String} (known : name ∈ names) :
    final.get name = (ms.lookup name).bind Tree.text? := by
  obtain ⟨need, get, put, found, hget, -, -⟩ := exists_field known
  have hfill : final.get name = (Draft.get {} name).or ((ms.lookup name).bind Tree.text?) := by
    refine fill_get (Draft.get · name) found (fun d => congrArg Option.isSome (hget d))
      (fun t put htake => ?_) (fun other t put d hne htake => ?_) h
    · obtain ⟨text, htext, rfl⟩ := Option.map_eq_some_iff.mp htake
      exact ⟨text, htext, fun d => d.get_put_self known text⟩
    · obtain ⟨text, -, rfl⟩ := Option.map_eq_some_iff.mp htake
      exact d.get_put_of_ne hne text
  have hblank : Draft.get {} name = none := by
    unfold Draft.get
    split <;> rfl
  rw [hfill, hblank, Option.none_or]

/-- What a draft is made into has the texts under the names. -/
theorem deployment_of_fill {ms : List (String × Tree)} {final : Draft}
    (h : fill shape taking {} ms = some final) :
    ({ account := final.account.getD "", interface := final.interface.getD ""
       contractAddress := final.contractAddress.getD "", gasPrice := final.gasPrice.getD ""
       transactionHash := final.transactionHash.getD "" } : Deployment) =
      { account := textUnder "address" ms, interface := textUnder "abi" ms
        contractAddress := textUnder "contract_address" ms, gasPrice := textUnder "gas_price" ms
        transactionHash := textUnder "transaction_hash" ms } := by
  have hget : ∀ name ∈ names, (final.get name).getD "" = textUnder name ms := fun name known =>
    congrArg (Option.getD · "") (get_of_fill h known)
  rw [← hget "address" (by decide), ← hget "abi" (by decide), ← hget "contract_address" (by decide),
    ← hget "gas_price" (by decide), ← hget "transaction_hash" (by decide)]
  rfl

/-- A deployment is filled by objects that have each of its names at most once, and texts under
them. -/
theorem isSome_fill_shape_iff (ms : List (String × Tree)) :
    (fill shape taking {} ms).isSome = true ↔
      ∀ name ∈ names, AtMostOnce name ms ∧ ∀ t, (name, t) ∈ ms → ∃ s, t = .text s := by
  have hkind : ∀ name t, (taking name t).isSome = true ↔ ∃ s, t = .text s := by
    intro name t
    simp only [taking, Option.isSome_map, Option.isSome_iff_exists, text?_eq_some_iff]
  have h := isSome_fill_blank_iff independent_shape {} (by simp [shape, Field.of]) ms
  simp only [hkind] at h
  exact h

/-- An object is read as a deployment if each known name comes once at most and with a text, and
then by the names. -/
theorem decode_object_iff {ms : List (String × Tree)} {document : String}
    (h : ObjectText ms document) {d : Deployment} :
    decode reader (Utf8.pieces (Utf8.encode document)) = .ok d ↔
      (∀ name ∈ names, AtMostOnce name ms ∧ ∀ t, (name, t) ∈ ms → ∃ s, t = .text s) ∧
        d = { account := textUnder "address" ms, interface := textUnder "abi" ms
              contractAddress := textUnder "contract_address" ms
              gasPrice := textUnder "gas_price" ms
              transactionHash := textUnder "transaction_hash" ms } := by
  rw [Utf8.pieces_encode, ← isSome_fill_shape_iff, Option.isSome_iff_exists]
  refine (decode_object_eq_ok_iff judged_shape {} _ h).trans ?_
  constructor
  · rintro ⟨final, hfill, rfl⟩
    exact ⟨⟨final, hfill⟩, deployment_of_fill hfill⟩
  · rintro ⟨⟨final, hfill⟩, rfl⟩
    exact ⟨final, hfill, deployment_of_fill hfill⟩

end Deployment

/-! ## Requests of binds -/

namespace BindRequest

/-- An address may be null, and the arguments are texts. -/
def taking : Taking Draft := fun name t =>
  match name with
  | "contract_url" => (Tree.orNull Tree.text? t).map fun url d => { d with contractUrl := some url }
  | "contract_args" => t.texts?.map fun args d => { d with contractArgs := some args }
  | _ => none

/-- What is taken under a name changes nothing under the other one. -/
theorem taking_cases {name : String} {t : Json.Tree} {put : Draft → Draft}
    (h : taking name t = some put) :
    (name = "contract_url" ∧ ∀ d, (put d).contractArgs = d.contractArgs) ∨
      (name = "contract_args" ∧ ∀ d, (put d).contractUrl = d.contractUrl) := by
  unfold taking at h
  split at h
  · obtain ⟨_, -, rfl⟩ := Option.map_eq_some_iff.mp h
    exact .inl ⟨rfl, fun _ => rfl⟩
  · obtain ⟨_, -, rfl⟩ := Option.map_eq_some_iff.mp h
    exact .inr ⟨rfl, fun _ => rfl⟩
  · cases h

/-- The fields of a request take a text or `null`, and a list of texts. -/
theorem judged_shape : Judged shape taking where
  reads := by
    intro name field found draft
    obtain ⟨hmem, rfl⟩ := mem_of_find?_name found
    simp only [shape, List.mem_cons, List.not_mem_nil, or_false] at hmem
    rcases hmem with rfl | rfl
    · show Judges _ fun t => ((Tree.orNull Tree.text? t).map _).map _
      simp only [Option.map_map]
      exact judges_field judges_textValue.nullable draft
    · show Judges _ fun t => (t.texts?.map _).map _
      simp only [Option.map_map]
      exact judges_field judges_texts draft
  optional := fun _ => rfl

/-- No field of a request gives another one. -/
theorem independent_shape : Independent shape taking where
  own := by
    intro name field t put draft found htake
    obtain ⟨hmem, rfl⟩ := mem_of_find?_name found
    simp only [shape, List.mem_cons, List.not_mem_nil, or_false] at hmem
    rcases hmem with rfl | rfl <;> obtain ⟨_, -, rfl⟩ := Option.map_eq_some_iff.mp htake <;> rfl
  other := by
    intro name field t put draft name' field' found htake found' hne
    obtain ⟨hmem, rfl⟩ := mem_of_find?_name found
    obtain ⟨hmem', rfl⟩ := mem_of_find?_name found'
    simp only [shape, List.mem_cons, List.not_mem_nil, or_false] at hmem hmem'
    rcases hmem with rfl | rfl <;> rcases hmem' with rfl | rfl <;>
      obtain ⟨_, -, rfl⟩ := Option.map_eq_some_iff.mp htake <;>
      first | rfl | exact absurd rfl hne

/-- A request is filled by objects that have each of its names at most once, with such values. -/
theorem isSome_fill_shape_iff (ms : List (String × Json.Tree)) :
    (fill shape taking {} ms).isSome = true ↔
      (AtMostOnce "contract_url" ms ∧
        ∀ t, ("contract_url", t) ∈ ms → t = .null ∨ ∃ s, t = .text s) ∧
      AtMostOnce "contract_args" ms ∧
        ∀ t, ("contract_args", t) ∈ ms → ∃ l : List String, t = .list (l.map .text) := by
  have hurl : ∀ t, (taking "contract_url" t).isSome = true ↔ t = .null ∨ ∃ s, t = .text s := by
    intro t
    rw [← isSome_orNull_text?_iff]
    exact Bool.eq_iff_iff.mp Option.isSome_map
  have hargs : ∀ t, (taking "contract_args" t).isSome = true ↔
      ∃ l : List String, t = .list (l.map .text) := by
    intro t
    simp only [← texts?_eq_some_iff, ← Option.isSome_iff_exists]
    exact Bool.eq_iff_iff.mp Option.isSome_map
  rw [isSome_fill_blank_iff independent_shape {} (by simp [shape, Field.of]) ms]
  simp only [← hurl, ← hargs]
  exact List.forall_mem_cons.trans (and_congr Iff.rfl List.forall_mem_singleton)

/-- What a draft is made into has what stands under the names. -/
theorem request_of_fill {ms : List (String × Json.Tree)} {final : Draft}
    (h : fill shape taking {} ms = some final) :
    ({ contractUrl := final.contractUrl.getD none
       contractArgs := final.contractArgs.getD [] } : BindRequest) =
      { contractUrl := (ms.lookup "contract_url").bind Tree.text?
        contractArgs := ((ms.lookup "contract_args").bind Tree.texts?).getD [] } := by
  have hurl : final.contractUrl =
      Option.or none ((ms.lookup "contract_url").bind (Tree.orNull Tree.text?)) := by
    refine fill_get Draft.contractUrl rfl (fun _ => rfl) (fun t put htake => ?_)
      (fun other t put d hne htake => ?_) h
    · obtain ⟨url, hurl, rfl⟩ := Option.map_eq_some_iff.mp htake
      exact ⟨url, hurl, fun _ => rfl⟩
    · exact (taking_cases htake).elim (fun h => absurd h.1 hne) fun h => h.2 d
  have hargs : final.contractArgs =
      Option.or none ((ms.lookup "contract_args").bind Tree.texts?) := by
    refine fill_get Draft.contractArgs rfl (fun _ => rfl) (fun t put htake => ?_)
      (fun other t put d hne htake => ?_) h
    · obtain ⟨args, hargs, rfl⟩ := Option.map_eq_some_iff.mp htake
      exact ⟨args, hargs, fun _ => rfl⟩
    · exact (taking_cases htake).elim (fun h => h.2 d) fun h => absurd h.1 hne
  have hnull : ((ms.lookup "contract_url").bind (Tree.orNull Tree.text?)).getD none =
      (ms.lookup "contract_url").bind Tree.text? := by
    cases ms.lookup "contract_url" with
    | none => rfl
    | some t => exact getD_orNull_text? t
  rw [hurl, hargs, Option.none_or, Option.none_or, hnull]

/-- An object is no payload of blanks. -/
theorem all_isAsciiBlank_object {ms : List (String × Json.Tree)} {document : String}
    (h : ObjectText ms document) : (Utf8.encode document).all isAsciiBlank = false := by
  cases h with
  | @object before l after _ h =>
    cases h with
    | record =>
      refine List.all_eq_false.mpr ⟨0x7B, ?_, by decide⟩
      unfold Utf8.encode
      rw [String.toList_ofList]
      exact List.mem_flatMap.mpr ⟨'\x7b', by simp, by decide⟩

/-- An object is read as a request if each known name comes once at most and with a value of its
kind, and then by the names. -/
theorem ofPayload_object_iff {ms : List (String × Json.Tree)} {document : String}
    (h : ObjectText ms document) {r : BindRequest} :
    ofPayload (Utf8.encode document) = .ok r ↔
      ((AtMostOnce "contract_url" ms ∧
          ∀ t, ("contract_url", t) ∈ ms → t = .null ∨ ∃ s, t = .text s) ∧
        AtMostOnce "contract_args" ms ∧
          ∀ t, ("contract_args", t) ∈ ms → ∃ l : List String, t = .list (l.map .text)) ∧
        r = { contractUrl := (ms.lookup "contract_url").bind Tree.text?
              contractArgs := ((ms.lookup "contract_args").bind Tree.texts?).getD [] } := by
  have hread : ofPayload (Utf8.encode document) = decode reader (Utf8.ofText document) := by
    unfold ofPayload
    rw [all_isAsciiBlank_object h, Utf8.pieces_encode, decode_nullable_object reader h]
    cases decode reader (Utf8.ofText document) <;> rfl
  rw [hread, ← isSome_fill_shape_iff, Option.isSome_iff_exists]
  refine (decode_object_eq_ok_iff judged_shape {} _ h).trans ?_
  constructor
  · rintro ⟨final, hfill, rfl⟩
    exact ⟨⟨final, hfill⟩, request_of_fill hfill⟩
  · rintro ⟨⟨final, hfill⟩, rfl⟩
    exact ⟨final, hfill, request_of_fill hfill⟩

end BindRequest

/-! ## Objects with the same known members -/

namespace Json

/-- The members of the names are the same in both, in whatever order, and any others may be among
them. -/
def SameKnown (names : List String) (ms ms' : List (String × Tree)) : Prop :=
  (ms.filter (·.1 ∈ names)).Perm (ms'.filter (·.1 ∈ names))

variable {names : List String} {name : String} {ms ms' : List (String × Tree)}

/-- Objects with the same known members have the same values under known names. -/
theorem SameKnown.mem_iff (h : SameKnown names ms ms') (known : name ∈ names) {t : Tree} :
    (name, t) ∈ ms' ↔ (name, t) ∈ ms := by
  have hmem : (name, t) ∈ ms.filter (·.1 ∈ names) ↔ (name, t) ∈ ms'.filter (·.1 ∈ names) :=
    List.Perm.mem_iff h
  simpa [known] using hmem.symm

/-- A known name is there at most once in both of them, or in neither. -/
theorem SameKnown.atMostOnce_iff (h : SameKnown names ms ms') (known : name ∈ names) :
    AtMostOnce name ms' ↔ AtMostOnce name ms := by
  have hcount : ∀ l : List (String × Tree),
      ((l.filter (·.1 ∈ names)).map Prod.fst).count name = (l.map Prod.fst).count name := by
    intro l
    unfold List.count
    rw [List.countP_map, List.countP_map, List.countP_filter]
    refine List.countP_congr fun m _ => ?_
    simp only [Function.comp_apply, Bool.and_eq_true, beq_iff_eq, decide_eq_true_eq]
    exact ⟨fun h => h.1, fun h => ⟨h, h ▸ known⟩⟩
  unfold AtMostOnce
  rw [← hcount ms, ← hcount ms', (h.map Prod.fst).count_eq]

/-- Under a name that is there once, the one value is found. -/
theorem lookup_eq_some_iff (once : AtMostOnce name ms) {t : Tree} :
    ms.lookup name = some t ↔ (name, t) ∈ ms := by
  refine ⟨mem_of_lookup_eq_some, fun h => ?_⟩
  obtain ⟨before, after, rfl⟩ := List.append_of_mem h
  refine List.lookup_eq_some_iff.mpr
    ⟨before, after, rfl, fun m hm => bne_iff_ne.mpr fun hname => ?_⟩
  have hbefore : 1 ≤ (before.map Prod.fst).count name :=
    List.one_le_count_iff.mpr (hname ▸ List.mem_map_of_mem hm)
  unfold AtMostOnce at once
  rw [List.map_append, List.count_append, List.map_cons, List.count_cons_self] at once
  omega

/-- So the same value is found in both. -/
theorem SameKnown.lookup_eq (h : SameKnown names ms ms') (known : name ∈ names)
    (once : AtMostOnce name ms) : ms'.lookup name = ms.lookup name := by
  refine Option.ext fun t => ?_
  rw [lookup_eq_some_iff once, lookup_eq_some_iff ((h.atMostOnce_iff known).mpr once),
    h.mem_iff known]

end Json

/-- **Objects are read by the names of their members.** However an object is written, with whatever
members of other names, it is read as a deployment if each of the five names comes once at most and
with a text, and then each field is that text or empty; and it is read as a request if an address
comes once at most, as a text or null, and arguments once at most, as a list of texts. So neither
the order of the members nor those of other names matter. -/
theorem objects_by_names :
    (∀ (ms : List (String × Json.Tree)) document, ObjectText ms document → ∀ d,
      decode Deployment.reader (Utf8.pieces (Utf8.encode document)) = .ok d ↔
        (∀ name ∈ ["address", "abi", "contract_address", "gas_price", "transaction_hash"],
          AtMostOnce name ms ∧ ∀ t, (name, t) ∈ ms → ∃ s, t = .text s) ∧
        d = { account := textUnder "address" ms, interface := textUnder "abi" ms
              contractAddress := textUnder "contract_address" ms
              gasPrice := textUnder "gas_price" ms
              transactionHash := textUnder "transaction_hash" ms }) ∧
    (∀ (ms : List (String × Json.Tree)) document, ObjectText ms document → ∀ r,
      BindRequest.ofPayload (Utf8.encode document) = .ok r ↔
        ((AtMostOnce "contract_url" ms ∧
            ∀ t, ("contract_url", t) ∈ ms → t = .null ∨ ∃ s, t = .text s) ∧
          AtMostOnce "contract_args" ms ∧
            ∀ t, ("contract_args", t) ∈ ms → ∃ l : List String, t = .list (l.map .text)) ∧
        r = { contractUrl := (ms.lookup "contract_url").bind Tree.text?
              contractArgs := ((ms.lookup "contract_args").bind Tree.texts?).getD [] }) ∧
    ∀ (ms ms' : List (String × Json.Tree)) document document',
      ObjectText ms document → ObjectText ms' document' →
      (SameKnown Deployment.names ms ms' → ∀ d,
        decode Deployment.reader (Utf8.pieces (Utf8.encode document)) = .ok d →
        decode Deployment.reader (Utf8.pieces (Utf8.encode document')) = .ok d) ∧
      (SameKnown ["contract_url", "contract_args"] ms ms' → ∀ r,
        BindRequest.ofPayload (Utf8.encode document) = .ok r →
        BindRequest.ofPayload (Utf8.encode document') = .ok r) := by
  refine ⟨fun ms document h d => Deployment.decode_object_iff h,
    fun ms document h r => BindRequest.ofPayload_object_iff h,
    fun ms ms' document document' h h' => ⟨fun same d hread => ?_, fun same r hread => ?_⟩⟩
  · obtain ⟨good, rfl⟩ := (Deployment.decode_object_iff h).mp hread
    refine (Deployment.decode_object_iff h').mpr ⟨fun name known => ?_, ?_⟩
    · obtain ⟨once, kind⟩ := good name known
      exact ⟨(same.atMostOnce_iff known).mpr once, fun t ht => kind t ((same.mem_iff known).mp ht)⟩
    · -- a name that is there once has its one value in both objects
      have htext : ∀ name ∈ Deployment.names, textUnder name ms' = textUnder name ms := by
        intro name known
        unfold textUnder
        rw [same.lookup_eq known (good name known).1]
      rw [htext "address" (by decide), htext "abi" (by decide),
        htext "contract_address" (by decide), htext "gas_price" (by decide),
        htext "transaction_hash" (by decide)]
  · obtain ⟨⟨⟨urlOnce, url⟩, argsOnce, args⟩, rfl⟩ :=
      (BindRequest.ofPayload_object_iff h).mp hread
    have hurl : "contract_url" ∈ ["contract_url", "contract_args"] := by simp
    have hargs : "contract_args" ∈ ["contract_url", "contract_args"] := by simp
    refine (BindRequest.ofPayload_object_iff h').mpr ⟨⟨⟨?_, ?_⟩, ?_, ?_⟩, ?_⟩
    · exact (same.atMostOnce_iff hurl).mpr urlOnce
    · exact fun t ht => url t ((same.mem_iff hurl).mp ht)
    · exact (same.atMostOnce_iff hargs).mpr argsOnce
    · exact fun t ht => args t ((same.mem_iff hargs).mp ht)
    · rw [same.lookup_eq hurl urlOnce, same.lookup_eq hargs argsOnce]

/-- A list of a record and a null value, under a name that nobody knows, is passed over, and the
order of the others does not matter. -/
theorem reordered_by_names :
    decode Deployment.reader (Utf8.pieces (Utf8.encode
      "\x7b\"more\":[\x7b\"abi\":7\x7d,null],\"gas_price\" : \"1\",\"address\":\"0xA\"\x7d")) =
      .ok { account := "0xA", interface := "", contractAddress := "", gasPrice := "1"
            transactionHash := "" } := by
  have empty : Blank [] := by simp [Blank]
  have space : Blank [' '] := by simp [Blank, isSpace]
  have comma : Separates false ([] ++ ',' :: []) := .next empty empty
  have text : ∀ s : String,
      Derives (.value (.text s)) ('"' :: (s.toList.flatMap escape ++ ['"'])) :=
    fun s => .text (spelledText_escape _)
  have seven : SpelledNumber ([] ++ (['7'] ++ ([] ++ []))) :=
    .number (.inl rfl) (.digits ⟨by decide, List.forall_mem_singleton.mpr rfl⟩ (by decide)) .none
      .none
  have inner := Derives.record (.member (.first empty) (spelledText_escape "abi".toList) empty empty
    (.number seven) (.noMember empty))
  have more := Derives.list (.item (.first empty) inner (.item comma .nullWord (.noItem empty)))
  have others := Derives.member comma (spelledText_escape "gas_price".toList) space space (text "1")
    (.member comma (spelledText_escape "address".toList) empty empty (text "0xA") (.noMember empty))
  have members := Derives.record
    (.member (.first empty) (spelledText_escape "more".toList) empty empty more others)
  refine (objects_by_names.1 _ _ (.object empty members empty) _).mpr ⟨?_, rfl⟩
  intro name known
  simp only [List.mem_cons, List.not_mem_nil, or_false] at known
  rcases known with rfl | rfl | rfl | rfl | rfl <;> simp [AtMostOnce]

end ChainBroker
