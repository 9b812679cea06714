import ChainBroker.Json.Decode
import ChainBroker.Json.Value
import ChainBroker.Proofs.Utf8
import Mathlib.Data.List.TakeWhile
import Mathlib.Tactic.IntervalCases

/-!
# Reading JSON that was written

A reader *reads* a value as something (`Reads`) if it takes just the value for it, wherever the
value stands: in each layout, at each depth, behind blanks, and whatever follows. Such facts are put
together the way that values are:

1. `reads_text`: a text, escape by escape;
2. `reads_list`: a list, from its items;
3. `reads_table`: a table, from its entries;
4. `reads_record`: a record of a shape, from its members (`Fills`).

A whole document is then read back from its rendering (`Reads.decode`).
-/

namespace ChainBroker.Json

open Utf8 (Piece)

variable {α β σ : Type}

/-- The reading ends with the value, and leaves the rest. -/
def Yields {bound : Nat} (reading : Except Fault (Taken bound α)) (a : α) (rest : Source) : Prop :=
  ∃ shorter, reading = .ok ⟨a, rest, shorter⟩

/-- A digit that was written is read as its value. -/
theorem hexPiece?_hexDigit {d : Nat} (h : d < 16) :
    hexPiece? (.char (Text.hexDigit d)) = some d := by
  interval_cases d <;> rfl

theorem hexQuad_control {n : Nat} (h : n < 0x20) (s : Source) :
    Yields (hexQuad (.char '0' :: .char '0' :: .char (Text.hexDigit (n / 16)) ::
      .char (Text.hexDigit (n % 16)) :: s)) n s := by
  have hzero : hexPiece? (.char '0') = some 0 := rfl
  refine ⟨by simp only [List.length_cons]; omega, ?_⟩
  rw [hexQuad]
  simp only [hzero, hexPiece?_hexDigit (show n / 16 < 16 by omega),
    hexPiece?_hexDigit (show n % 16 < 16 by omega)]
  congr 2
  omega

/-- The four digits behind `\u` are those of the control character. -/
theorem escape?_control {c : Char} (h : c.toNat < 0x20) (s : Source) :
    Yields (escape? (.char 'u' :: .char '0' :: .char '0' :: .char (Text.hexDigit (c.toNat / 16)) ::
      .char (Text.hexDigit (c.toNat % 16)) :: s)) c s := by
  obtain ⟨shorter, hquad⟩ := hexQuad_control h s
  refine ⟨by simp only [List.length_cons]; omega, ?_⟩
  rw [escape?]
  simp only [hquad]
  rw [if_neg (by simp; omega), if_neg (by simp; omega), Char.ofNat_toNat]

theorem textBody_backslash {s t : Source} {c : Char} {body : List Piece} {rest : Source}
    (hc : Yields (escape? s) c t) (hbody : Yields (textBody t) body rest) :
    Yields (textBody (.char '\\' :: s)) (.char c :: body) rest := by
  obtain ⟨h1, hc⟩ := hc
  obtain ⟨h2, hbody⟩ := hbody
  refine ⟨by simp only [List.length_cons]; omega, ?_⟩
  rw [textBody]
  simp only [hc, hbody]
  rfl

/-- All other characters stand for themselves. -/
theorem textBody_plain {s : Source} {c : Char} {body : List Piece} {rest : Source}
    (hquote : c ≠ '"') (hbackslash : c ≠ '\\') (hcontrol : ¬c.toNat < 0x20)
    (hbody : Yields (textBody s) body rest) :
    Yields (textBody (.char c :: s)) (.char c :: body) rest := by
  obtain ⟨h1, hbody⟩ := hbody
  refine ⟨by simp only [List.length_cons]; omega, ?_⟩
  rw [textBody]
  · rw [if_neg (by simpa [isControl] using hcontrol)]
    simp only [hbody]
    rfl
  · intro h
    exact hquote (by simpa using h)
  · intro h
    exact hbackslash (by simpa using h)

/-- A character is read back from how it stands in a text. -/
theorem textBody_escape (c : Char) {s : Source} {body : List Piece} {rest : Source}
    (h : Yields (textBody s) body rest) :
    Yields (textBody ((escape c).map .char ++ s)) (.char c :: body) rest := by
  fun_cases escape c
  case case8 hquote hbackslash _ _ _ _ _ hcontrol =>
    exact textBody_backslash (escape?_control hcontrol s) h
  case case9 hquote hbackslash _ _ _ _ _ hcontrol =>
    exact textBody_plain hquote hbackslash hcontrol h
  all_goals exact textBody_backslash ⟨by simp, rfl⟩ h

/-- Written characters are read up to the closing mark, and are the same. -/
theorem textBody_written (l : List Char) (rest : Source) :
    Yields (textBody ((l.flatMap escape ++ ['"']).map .char ++ rest)) (l.map .char) rest := by
  induction l with
  | nil =>
    refine ⟨by simp, ?_⟩
    show textBody (.char '"' :: rest) = _
    rw [textBody]
    rfl
  | cons c l ih =>
    rw [List.flatMap_cons, List.append_assoc, List.map_append, List.append_assoc]
    exact textBody_escape c ih

theorem decodeText_chars (l : List Char) : decodeText (l.map .char) = .ok (String.ofList l) := by
  unfold decodeText
  rw [Utf8.mapM_char?_eq_some_iff.mpr rfl]

/-- A text is read back from how it is written. -/
theorem openText_written (s : String) (rest : Source) :
    Yields (openText ((s.toList.flatMap escape ++ ['"']).map .char ++ rest)) s rest := by
  obtain ⟨shorter, h⟩ := textBody_written s.toList rest
  refine ⟨shorter, ?_⟩
  unfold openText
  simp only [h, decodeText_chars, String.ofList_toList]
  rfl

/-! ## Blanks -/

/-- Blanks are passed over, and nothing behind them. -/
theorem skipBlanks_append {blanks : List Char} (h : ∀ c ∈ blanks, isSpace (.char c) = true)
    {p : Piece} (hp : isSpace p = false) (s : Source) :
    skipBlanks (blanks.map .char ++ p :: s) = p :: s := by
  unfold skipBlanks
  rw [List.dropWhile_append_of_pos, List.dropWhile_cons_of_neg (by simp [hp])]
  intro q hq
  obtain ⟨c, hc, rfl⟩ := List.mem_map.mp hq
  exact h c hc

/-- What a layout puts between two lines is blank. -/
theorem isSpace_newline (layout : Layout) (depth : Nat) :
    ∀ c ∈ layout.newline depth, isSpace (.char c) = true := by
  cases layout with
  | compact => simp [Layout.newline]
  | indented =>
    intro c hc
    rcases List.mem_cons.mp hc with rfl | hc
    · rfl
    · rw [(List.mem_replicate.mp hc).2]
      rfl

theorem leading_yields {read : Piece → Reader α} {s t : Source} {p : Piece}
    (h : skipBlanks s = p :: t) {a : α} {rest : Source} (hread : Yields (read p t) a rest) :
    Yields (leading read s) a rest := by
  obtain ⟨shorter, hread⟩ := hread
  have ht := length_lt_of_skipBlanks h
  refine ⟨by omega, ?_⟩
  unfold leading
  split
  · next h' =>
    rw [h] at h'
    cases h'
  · next p' t' h' =>
    rw [h] at h'
    cases h'
    simp only [hread]
    rfl

/-! ## Values -/

/-- The first character of a value is no blank, ends no list, and tells null from all else. -/
structure Opens (c : Char) (j : Json) : Prop where
  notSpace : isSpace (.char c) = false
  notClosing : c ≠ ']'
  null : c = 'n' → j = .null

theorem Opens.of_ne {c : Char} {j : Json} (h : isSpace (.char c) = false) (h' : c ≠ ']')
    (hn : c ≠ 'n') : Opens c j :=
  ⟨h, h', fun h => absurd h hn⟩

theorem Opens.of_isDigit {c : Char} {j : Json} (h : c.isDigit = true) : Opens c j := by
  refine .of_ne ?_ ?_ ?_
  · unfold isSpace
    by_contra hspace
    simp only [Bool.not_eq_false, Bool.or_eq_true, beq_iff_eq] at hspace
    rcases hspace with ((rfl | rfl) | rfl) | rfl <;> cases h
  · rintro rfl
    cases h
  · rintro rfl
    cases h

/-- No written value starts with a blank, with the end of a list, or as `null` does without being
it. -/
theorem exists_opens (layout : Layout) (depth : Nat) (j : Json) :
    ∃ c t, j.write layout depth = c :: t ∧ Opens c j := by
  cases j with
  | null => exact ⟨'n', _, rfl, rfl, by decide, fun _ => rfl⟩
  | bool b => cases b <;> exact ⟨_, _, rfl, .of_ne rfl (by decide) (by decide)⟩
  | int n =>
    cases n with
    | negSucc n => exact ⟨'-', _, rfl, .of_ne rfl (by decide) (by decide)⟩
    | ofNat n =>
      obtain ⟨c, t, h⟩ := List.exists_cons_of_ne_nil (Nat.toDigits_ne_nil (n := n) (b := 10))
      have hmem : c ∈ Nat.toDigits 10 n := by
        rw [h]
        exact List.mem_cons_self
      exact ⟨c, t, h, .of_isDigit (Nat.isDigit_of_mem_toDigits (by decide) (by decide) hmem)⟩
  | text s => exact ⟨'"', _, rfl, .of_ne rfl (by decide) (by decide)⟩
  | list l => cases l <;> exact ⟨'[', _, rfl, .of_ne rfl (by decide) (by decide)⟩
  | record l => cases l <;> exact ⟨'\x7b', _, rfl, .of_ne rfl (by decide) (by decide)⟩

/-- Where the blanks before a value end, the value opens. -/
theorem skipBlanks_write {blanks : List Char} (h : ∀ c ∈ blanks, isSpace (.char c) = true)
    (layout : Layout) (depth : Nat) (j : Json) (rest : Source) :
    ∃ c t, skipBlanks ((blanks ++ j.write layout depth).map .char ++ rest) = .char c :: t ∧
      Opens c j := by
  obtain ⟨c, t, hwrite, opens⟩ := exists_opens layout depth j
  refine ⟨c, t.map .char ++ rest, ?_, opens⟩
  rw [hwrite, List.map_append, List.append_assoc]
  exact skipBlanks_append h opens.notSpace _

/-- The reader takes the value for what is written, in every layout, behind blanks and whatever
follows. -/
def Reads (r : Reader α) (j : Json) (a : α) : Prop :=
  ∀ layout depth blanks rest, (∀ c ∈ blanks, isSpace (.char c) = true) →
    Yields (r ((blanks ++ j.write layout depth).map .char ++ rest)) a rest

/-- A text is read back. -/
theorem reads_text (s : String) : Reads textValue (.text s) s := by
  intro layout depth blanks rest hblanks
  rw [List.map_append, List.append_assoc]
  refine leading_yields (skipBlanks_append hblanks rfl _) ?_
  rw [if_pos rfl]
  exact openText_written s rest

/-- A value that may be missing is read as it is where it is not. -/
theorem Reads.nullable {r : Reader α} {j : Json} {a : α} (h : Reads r j a) (hj : j ≠ .null) :
    Reads (Json.nullable r) j (some a) := by
  intro layout depth blanks rest hblanks
  obtain ⟨shorter, hread⟩ := h layout depth blanks rest hblanks
  refine ⟨shorter, ?_⟩
  obtain ⟨c, t, hwrite, opens⟩ := exists_opens layout depth j
  have hskip : skipBlanks ((blanks ++ j.write layout depth).map .char ++ rest) =
      .char c :: (t.map .char ++ rest) := by
    rw [hwrite, List.map_append, List.append_assoc]
    exact skipBlanks_append hblanks opens.notSpace _
  unfold Json.nullable
  split
  · next _ h' =>
    rw [hskip] at h'
    cases h'
    exact absurd (opens.null rfl) hj
  · rw [hread]
    rfl

/-- The reader takes what another one takes, and goes on with the value. -/
theorem Reads.map {r : Reader α} {j : Json} {a : α} (h : Reads r j a) (f : α → β) :
    Reads (fun s => (r s).map fun t => t.map f) j (f a) := by
  intro layout depth blanks rest hblanks
  obtain ⟨shorter, hread⟩ := h layout depth blanks rest hblanks
  refine ⟨shorter, ?_⟩
  simp only [hread]
  rfl

/-- What is written is read back, with nothing but blanks behind it. -/
theorem Reads.decode_append {r : Reader α} {j : Json} {a : α} (h : Reads r j a) (layout : Layout)
    (after : String) (hafter : ∀ c ∈ after.toList, isSpace (.char c) = true) :
    Json.decode r (Utf8.ofText (j.render layout ++ after)) = .ok a := by
  have hread := h layout 0 [] (after.toList.map .char) (by simp)
  rw [List.nil_append] at hread
  obtain ⟨shorter, hread⟩ := hread
  have hblanks : skipBlanks (after.toList.map .char) = [] := by
    unfold skipBlanks
    rw [List.dropWhile_eq_nil_iff, List.forall_mem_map]
    exact hafter
  unfold Json.decode Utf8.ofText render
  rw [String.toList_append, String.toList_ofList, List.map_append, hread]
  simp [hblanks]

/-- What is written is read back, with nothing behind it. -/
theorem Reads.decode {r : Reader α} {j : Json} {a : α} (h : Reads r j a) (layout : Layout) :
    Json.decode r (Utf8.ofText (j.render layout)) = .ok a := by
  have hread := h.decode_append layout "" (by simp)
  rwa [String.append_empty] at hread

/-! ## Lists -/

/-- What is done at the start of an item, from the first character behind the blanks. -/
theorem nextItem_eq (first : Bool) {s t : Source} {p : Piece} (h : skipBlanks s = p :: t) :
    nextItem first s =
      if p = .char ']' then .ok none
      else if first then .ok (some (.whole s))
      else if p = .char ',' then
        match skipBlanks t with
        | [] => .error .endInValue
        | q :: _ =>
          if q = .char ']' then .error .trailingComma
          else .ok (some ⟨t, Nat.le_of_lt (length_lt_of_skipBlanks h)⟩)
      else .error .listCommaExpected := by
  unfold nextItem
  split
  · next h' =>
    rw [h] at h'
    cases h'
  · next h' =>
    rw [h] at h'
    cases h'
    rfl

theorem nextItem_first {s t : Source} {p : Piece} (h : skipBlanks s = p :: t)
    (hp : p ≠ .char ']') : nextItem true s = .ok (some (.whole s)) := by
  rw [nextItem_eq true h, if_neg hp, if_pos rfl]

theorem nextItem_comma {s t u : Source} {p : Piece} (h : skipBlanks s = .char ',' :: t)
    (ht : skipBlanks t = p :: u) (hp : p ≠ .char ']') :
    ∃ shorter, nextItem false s = .ok (some ⟨t, shorter⟩) := by
  refine ⟨Nat.le_of_lt (length_lt_of_skipBlanks h), ?_⟩
  rw [nextItem_eq false h, if_neg (by decide), if_neg Bool.false_ne_true, if_pos rfl, ht]
  exact if_neg hp

theorem closeList_closing {s t : Source} (h : skipBlanks s = .char ']' :: t) :
    ∃ shorter, closeList s = .ok ⟨t, shorter⟩ := by
  refine ⟨length_lt_of_skipBlanks h, ?_⟩
  unfold closeList
  split
  · next h' =>
    rw [h] at h'
    cases h'
  · next h' =>
    rw [h] at h'
    cases h'
    rw [if_pos rfl]

/-- At the end of a list there are no more items. -/
theorem items_closing (item : Reader α) (first : Bool) {s t : Source}
    (h : skipBlanks s = .char ']' :: t) : Yields (items item first s) [] t := by
  obtain ⟨shorter, hclose⟩ := closeList_closing h
  have hnext : nextItem first s = .ok none := by rw [nextItem_eq first h, if_pos rfl]
  refine ⟨shorter, ?_⟩
  rw [items]
  simp only [hnext, hclose]

/-- An item stands in front of the others. -/
theorem items_item {item : Reader α} {first : Bool} {s t u rest : Source} {a : α} {as : List α}
    (hnext : ∃ shorter, nextItem first s = .ok (some ⟨t, shorter⟩)) (hitem : Yields (item t) a u)
    (hothers : Yields (items item false u) as rest) :
    Yields (items item first s) (a :: as) rest := by
  obtain ⟨h1, hnext⟩ := hnext
  obtain ⟨h2, hitem⟩ := hitem
  obtain ⟨h3, hothers⟩ := hothers
  refine ⟨by omega, ?_⟩
  rw [items]
  simp only [hnext, hitem, hothers]
  rfl

/-- Items that are read one by one are read one behind the other. -/
theorem items_writeItems {item : Reader α} {js : List Json} {as : List α}
    (h : List.Forall₂ (Reads item) js as) (layout : Layout) (depth : Nat) (rest : Source) :
    Yields (items item false ((writeItems layout depth js).map .char ++ rest)) as rest := by
  induction h with
  | nil =>
    refine items_closing item false ?_
    rw [writeItems, List.map_append, List.append_assoc]
    exact skipBlanks_append (isSpace_newline layout depth) rfl rest
  | @cons j a js as hj hjs ih =>
    have hblanks := isSpace_newline layout (depth + 1)
    have hitem := hj layout (depth + 1) _ ((writeItems layout depth js).map .char ++ rest) hblanks
    obtain ⟨c, t, hskip, opens⟩ := skipBlanks_write hblanks layout (depth + 1) j
      ((writeItems layout depth js).map .char ++ rest)
    refine items_item (nextItem_comma ?_ hskip (by simpa using opens.notClosing)) hitem ih
    rw [writeItems, List.map_append, List.append_assoc]
    exact skipBlanks_append (List.forall_mem_nil _) rfl _

/-- A list is read back if its items are. -/
theorem reads_list {item : Reader α} {js : List Json} {as : List α}
    (h : List.Forall₂ (Reads item) js as) : Reads (listOf item) (.list js) as := by
  intro layout depth blanks rest hblanks
  rw [List.map_append, List.append_assoc]
  cases h with
  | nil =>
    refine leading_yields (skipBlanks_append hblanks rfl _) ?_
    rw [if_pos rfl]
    exact items_closing item true rfl
  | @cons j a js as hj hjs =>
    have hnewline := isSpace_newline layout (depth + 1)
    have hitem := hj layout (depth + 1) _ ((writeItems layout depth js).map .char ++ rest) hnewline
    obtain ⟨c, t, hskip, opens⟩ := skipBlanks_write hnewline layout (depth + 1) j
      ((writeItems layout depth js).map .char ++ rest)
    rw [write, List.map_append, List.append_assoc]
    refine leading_yields (skipBlanks_append hblanks rfl _) ?_
    rw [if_pos rfl]
    refine items_item ⟨_, nextItem_first hskip (by simpa using opens.notClosing)⟩ hitem ?_
    exact items_writeItems hjs layout depth rest

theorem reads_texts (l : List String) : Reads (listOf textValue) (texts l) l := by
  refine reads_list ?_
  induction l with
  | nil => exact .nil
  | cons s l ih => exact .cons (reads_text s) ih

/-! ## Members -/

/-- What is done at the start of a member, from the first character behind the blanks. -/
theorem nextMember_eq (first : Bool) {s t : Source} {p : Piece} (h : skipBlanks s = p :: t) :
    nextMember first s =
      if p = .char '\x7d' then .ok none
      else if first then
        if p = .char '"' then .ok (some ⟨t, length_lt_of_skipBlanks h⟩) else .error .nameExpected
      else if p = .char ',' then
        match h' : skipBlanks t with
        | [] => .error .endInValue
        | q :: u =>
          if q = .char '"' then
            .ok (some ⟨u, (length_lt_of_skipBlanks h').trans (length_lt_of_skipBlanks h)⟩)
          else if q = .char '\x7d' then .error .trailingComma
          else .error .nameExpected
      else .error .recordCommaExpected := by
  unfold nextMember
  split
  · next h' =>
    rw [h] at h'
    cases h'
  · next h' =>
    rw [h] at h'
    cases h'
    rfl

theorem nextMember_first {s t : Source} (h : skipBlanks s = .char '"' :: t) :
    ∃ shorter, nextMember true s = .ok (some ⟨t, shorter⟩) := by
  refine ⟨length_lt_of_skipBlanks h, ?_⟩
  rw [nextMember_eq true h, if_neg (by decide), if_pos rfl, if_pos rfl]

theorem nextMember_comma {s t u : Source} (h : skipBlanks s = .char ',' :: t)
    (ht : skipBlanks t = .char '"' :: u) :
    ∃ shorter, nextMember false s = .ok (some ⟨u, shorter⟩) := by
  refine ⟨(length_lt_of_skipBlanks ht).trans (length_lt_of_skipBlanks h), ?_⟩
  rw [nextMember_eq false h, if_neg (by decide), if_neg Bool.false_ne_true, if_pos rfl]
  split
  · next h' =>
    rw [ht] at h'
    cases h'
  · next h' =>
    rw [ht] at h'
    cases h'
    rw [if_pos rfl]

theorem closeRecord_closing {s t : Source} (h : skipBlanks s = .char '\x7d' :: t) :
    ∃ shorter, closeRecord s = .ok ⟨t, shorter⟩ := by
  refine ⟨length_lt_of_skipBlanks h, ?_⟩
  unfold closeRecord
  split
  · next h' =>
    rw [h] at h'
    cases h'
  · next h' =>
    rw [h] at h'
    cases h'
    rw [if_pos rfl]

theorem afterColon_colon {s t : Source} (h : skipBlanks s = .char ':' :: t) :
    ∃ shorter, afterColon s = .ok ⟨t, shorter⟩ := by
  refine ⟨length_lt_of_skipBlanks h, ?_⟩
  unfold afterColon
  split
  · next h' =>
    rw [h] at h'
    cases h'
  · next h' =>
    rw [h] at h'
    cases h'
    rw [if_pos rfl]

/-- What is written of a member and of those after it, cut where it is read piece by piece. -/
theorem map_writeMember (layout : Layout) (depth : Nat) (name : String) (j : Json)
    (ms : List (String × Json)) (rest : Source) :
    (layout.newline (depth + 1) ++ writeText name ++ layout.colon ++
        j.write layout (depth + 1) ++ writeMembers layout depth ms).map .char ++ rest =
      (layout.newline (depth + 1)).map .char ++
        .char '"' :: ((name.toList.flatMap escape ++ ['"']).map .char ++
          ((layout.colon ++ j.write layout (depth + 1)).map .char ++
            ((writeMembers layout depth ms).map .char ++ rest))) := by
  unfold writeText
  simp only [List.map_append, List.map_cons, List.append_assoc, List.cons_append]

/-- Each layout puts at most blanks behind a colon. -/
theorem Layout.exists_colon (layout : Layout) : ∃ blanks, layout.colon = ':' :: blanks ∧
    ∀ c ∈ blanks, isSpace (.char c) = true := by
  cases layout with
  | compact => exact ⟨[], rfl, by simp⟩
  | indented => exact ⟨[' '], rfl, List.forall_mem_singleton.mpr rfl⟩

/-- What is written behind the name of a member is a colon and a value that is read. -/
theorem afterColon_written {r : Reader α} {j : Json} {a : α} (reads : Reads r j a)
    (layout : Layout) (depth : Nat) (rest : Source) :
    ∃ t, (∃ shorter, afterColon ((layout.colon ++ j.write layout depth).map .char ++ rest) =
        .ok ⟨t, shorter⟩) ∧ Yields (r t) a rest := by
  obtain ⟨blanks, hlayout, hblanks⟩ := layout.exists_colon
  have hskip : skipBlanks ((layout.colon ++ j.write layout depth).map .char ++ rest) =
      .char ':' :: ((blanks ++ j.write layout depth).map .char ++ rest) := by
    rw [hlayout]
    rfl
  exact ⟨_, afterColon_colon hskip, reads layout depth blanks rest hblanks⟩

/-! ## Tables -/

/-- The member has the name of the entry, and its value is read as that of the entry. -/
structure ReadsEntry (value : Reader α) (m : String × Json) (e : String × α) : Prop where
  name : m.1 = e.1
  reads : Reads value m.2 e.2

theorem entries_closing (value : Reader α) (first : Bool) {s t : Source}
    (h : skipBlanks s = .char '\x7d' :: t) : Yields (entries value first s) [] t := by
  obtain ⟨shorter, hclose⟩ := closeRecord_closing h
  have hnext : nextMember first s = .ok none := by rw [nextMember_eq first h, if_pos rfl]
  refine ⟨shorter, ?_⟩
  rw [entries]
  simp only [hnext, hclose]

/-- A member of a table stands in front of the others. -/
theorem entries_entry {value : Reader α} {first : Bool} {s t u v w rest : Source} {name : String}
    {a : α} {es : List (String × α)}
    (hnext : ∃ shorter, nextMember first s = .ok (some ⟨t, shorter⟩))
    (hname : Yields (openText t) name u) (hcolon : ∃ shorter, afterColon u = .ok ⟨v, shorter⟩)
    (hvalue : Yields (value v) a w) (hothers : Yields (entries value false w) es rest) :
    Yields (entries value first s) ((name, a) :: es) rest := by
  obtain ⟨h1, hnext⟩ := hnext
  obtain ⟨h2, hname⟩ := hname
  obtain ⟨h3, hcolon⟩ := hcolon
  obtain ⟨h4, hvalue⟩ := hvalue
  obtain ⟨h5, hothers⟩ := hothers
  refine ⟨by omega, ?_⟩
  rw [entries]
  simp only [hnext, hname, hcolon, hvalue, hothers]
  rfl

/-- Members that are read one by one are read one behind the other. -/
theorem entries_writeMembers {value : Reader α} {ms : List (String × Json)}
    {es : List (String × α)} (h : List.Forall₂ (ReadsEntry value) ms es) (layout : Layout)
    (depth : Nat) (rest : Source) :
    Yields (entries value false ((writeMembers layout depth ms).map .char ++ rest)) es rest := by
  induction h with
  | nil =>
    refine entries_closing value false ?_
    rw [writeMembers, List.map_append, List.append_assoc]
    exact skipBlanks_append (isSpace_newline layout depth) rfl rest
  | @cons m e ms es hentry hentries ih =>
    obtain ⟨name, j⟩ := m
    obtain ⟨_, a⟩ := e
    obtain ⟨rfl, reads⟩ := hentry
    obtain ⟨t, hcolon, hvalue⟩ := afterColon_written reads layout (depth + 1)
      ((writeMembers layout depth ms).map .char ++ rest)
    have hname := skipBlanks_append (isSpace_newline layout (depth + 1)) (p := .char '"') rfl
    rw [writeMembers]
    simp only [List.cons_append]
    rw [List.map_cons, List.cons_append, map_writeMember]
    exact entries_entry (nextMember_comma rfl (hname _)) (openText_written name _) hcolon hvalue ih

/-- A table is read back if its members are. -/
theorem reads_table {value : Reader α} {ms : List (String × Json)} {es : List (String × α)}
    (h : List.Forall₂ (ReadsEntry value) ms es) : Reads (tableOf value) (.record ms) es := by
  intro layout depth blanks rest hblanks
  rw [List.map_append, List.append_assoc]
  cases h with
  | nil =>
    refine leading_yields (skipBlanks_append hblanks rfl _) ?_
    rw [if_pos rfl]
    exact entries_closing value true rfl
  | @cons m e ms es hentry hentries =>
    obtain ⟨name, j⟩ := m
    obtain ⟨_, a⟩ := e
    obtain ⟨rfl, reads⟩ := hentry
    obtain ⟨t, hcolon, hvalue⟩ := afterColon_written reads layout (depth + 1)
      ((writeMembers layout depth ms).map .char ++ rest)
    have hname := skipBlanks_append (isSpace_newline layout (depth + 1)) (p := .char '"') rfl
    rw [write]
    simp only [List.cons_append]
    rw [List.map_cons, List.cons_append, map_writeMember]
    refine leading_yields (skipBlanks_append hblanks rfl _) ?_
    rw [if_pos rfl]
    exact entries_entry (nextMember_first (hname _)) (openText_written name _) hcolon hvalue
      (entries_writeMembers hentries layout depth rest)

/-! ## Records -/

/-- The members fill the fields of a draft one by one, each with what is read from it. -/
inductive Fills (shape : Shape σ) : σ → List (String × Json) → σ → Prop where
  /-- All fields that are needed are there. -/
  | nil {draft : σ}
      (complete : (shape.fields.find? fun f => f.need = .required && !f.given draft) = none) :
    Fills shape draft [] draft
  /-- A field that is not there yet is filled. -/
  | cons {draft next final : σ} {name : String} {j : Json} {members : List (String × Json)}
      {field : Field σ} (found : shape.fields.find? (·.name == name) = some field)
      (free : field.given draft = false) (reads : Reads (field.read draft) j next)
      (others : Fills shape next members final) : Fills shape draft ((name, j) :: members) final

/-- A field puts into the draft what its reader reads. -/
theorem reads_field {name : String} {need : Need} {r : Reader α} {get : σ → Option α}
    {put : σ → α → σ} {j : Json} {a : α} (h : Reads r j a) (draft : σ) :
    Reads ((Field.of name need r get put).read draft) j (put draft a) := by
  intro layout depth blanks rest hblanks
  obtain ⟨shorter, hread⟩ := h layout depth blanks rest hblanks
  refine ⟨shorter, ?_⟩
  show (r _).map _ = _
  rw [hread]
  rfl

/-- A member is read by the field of its name, unless the field was given before. -/
theorem member_written {shape : Shape σ} {draft next : σ} {name : String} {field : Field σ}
    (found : shape.fields.find? (·.name == name) = some field) (free : field.given draft = false)
    {j : Json} (reads : Reads (field.read draft) j next) (layout : Layout) (depth : Nat)
    (rest : Source) :
    Yields (member shape draft name ((layout.colon ++ j.write layout depth).map .char ++ rest))
      next rest := by
  obtain ⟨t, ⟨h1, hcolon⟩, h2, hread⟩ := afterColon_written reads layout depth rest
  refine ⟨by omega, ?_⟩
  unfold member
  simp only [found, free, hcolon, hread]
  rfl

/-- A record may end when no field that it needs is missing. -/
theorem members_closing {shape : Shape σ} {draft : σ} (first : Bool) {s t : Source}
    (complete : (shape.fields.find? fun f => f.need = .required && !f.given draft) = none)
    (h : skipBlanks s = .char '\x7d' :: t) : Yields (members shape draft first s) draft t := by
  obtain ⟨shorter, hclose⟩ := closeRecord_closing h
  have hnext : nextMember first s = .ok none := by rw [nextMember_eq first h, if_pos rfl]
  refine ⟨shorter, ?_⟩
  rw [members]
  simp only [hnext, complete, hclose]

/-- A member of a record stands in front of the others, which are read into the draft that it
leaves. -/
theorem members_member {shape : Shape σ} {draft next final : σ} {name : String} {first : Bool}
    {s t u v rest : Source} (hnext : ∃ shorter, nextMember first s = .ok (some ⟨t, shorter⟩))
    (hname : Yields (openText t) name u) (hmember : Yields (member shape draft name u) next v)
    (hothers : Yields (members shape next false v) final rest) :
    Yields (members shape draft first s) final rest := by
  obtain ⟨h1, hnext⟩ := hnext
  obtain ⟨h2, hname⟩ := hname
  obtain ⟨h3, hmember⟩ := hmember
  obtain ⟨h4, hothers⟩ := hothers
  refine ⟨by omega, ?_⟩
  rw [members]
  simp only [hnext, hname, hmember, hothers]
  rfl

/-- Members that fill a draft are read into it one behind the other. -/
theorem members_writeMembers {shape : Shape σ} {draft final : σ} {ms : List (String × Json)}
    (h : Fills shape draft ms final) (layout : Layout) (depth : Nat) (rest : Source) :
    Yields (members shape draft false ((writeMembers layout depth ms).map .char ++ rest)) final
      rest := by
  induction h with
  | nil complete =>
    refine members_closing false complete ?_
    rw [writeMembers, List.map_append, List.append_assoc]
    exact skipBlanks_append (isSpace_newline layout depth) rfl rest
  | @cons draft next final name j ms field found free reads others ih =>
    have hmember := member_written found free reads layout (depth + 1)
      ((writeMembers layout depth ms).map .char ++ rest)
    have hname := skipBlanks_append (isSpace_newline layout (depth + 1)) (p := .char '"') rfl
    rw [writeMembers]
    simp only [List.cons_append]
    rw [List.map_cons, List.cons_append, map_writeMember]
    exact members_member (nextMember_comma rfl (hname _)) (openText_written name _) hmember ih

/-- A record is read back if its members fill the draft. -/
theorem reads_record {shape : Shape σ} {blank final : σ} {ms : List (String × Json)}
    (h : Fills shape blank ms final) : Reads (recordOf shape blank) (.record ms) final := by
  intro layout depth blanks rest hblanks
  rw [List.map_append, List.append_assoc]
  cases h with
  | nil complete =>
    refine leading_yields (skipBlanks_append hblanks rfl _) ?_
    rw [if_pos rfl]
    exact members_closing true complete rfl
  | @cons draft next final name j ms field found free reads others =>
    have hmember := member_written found free reads layout (depth + 1)
      ((writeMembers layout depth ms).map .char ++ rest)
    have hname := skipBlanks_append (isSpace_newline layout (depth + 1)) (p := .char '"') rfl
    rw [write]
    simp only [List.cons_append]
    rw [List.map_cons, List.cons_append, map_writeMember]
    refine leading_yields (skipBlanks_append hblanks rfl _) ?_
    rw [if_pos rfl]
    exact members_member (nextMember_first (hname _)) (openText_written name _) hmember
      (members_writeMembers others layout depth rest)

end ChainBroker.Json
