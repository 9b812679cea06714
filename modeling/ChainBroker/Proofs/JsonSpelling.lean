import ChainBroker.Proofs.JsonReading

/-!
# JSON texts as others write them

A character may stand in a JSON text as it is, behind a backslash as a letter, or as one or two
units of sixteen bits in hexadecimal digits (`Spelling`). Blanks may stand around every token
(`SpelledMembers`, `SpelledRecord`). Whatever way is chosen, a text is read as its characters
(`openText_spelled`), and a record of texts as what its members make of a draft
(`recordOf_spelled`).
-/

namespace ChainBroker.Json

open Utf8 (Piece)

variable {σ : Type} {c : Char} {spelled : List Char}

/-! ## Characters -/

/-- Four hexadecimal digits, and the number that they denote. -/
inductive HexUnit : List Char → Nat → Prop where
  /-- Each digit has its value. -/
  | digits {a b c d : Char} {i j k l : Nat} (ha : Text.hexValue? a = some i)
    (hb : Text.hexValue? b = some j) (hc : Text.hexValue? c = some k)
    (hd : Text.hexValue? d = some l) : HexUnit [a, b, c, d] (((i * 16 + j) * 16 + k) * 16 + l)

/-- The ways in which a character may stand in a text. -/
inductive Spelling (c : Char) : List Char → Prop where
  /-- As it is. -/
  | plain (hquote : c ≠ '"') (hbackslash : c ≠ '\\') (hcontrol : ¬c.toNat < 0x20) : Spelling c [c]
  /-- As a letter. -/
  | letter {l : Char} (h : escapeLetter? l = some c) : Spelling c ['\\', l]
  /-- As a unit. -/
  | unit {digits : List Char} (h : HexUnit digits c.toNat) : Spelling c ('\\' :: 'u' :: digits)
  /-- As a pair of surrogates. -/
  | pair {digits digits' : List Char} {high low : Nat} (hhigh : HexUnit digits high)
    (hlow : HexUnit digits' low) (high_ge : 0xD800 ≤ high) (high_le : high ≤ 0xDBFF)
    (low_ge : 0xDC00 ≤ low) (low_le : low ≤ 0xDFFF)
    (h : c.toNat = 0x10000 + (high - 0xD800) * 0x400 + (low - 0xDC00)) :
    Spelling c ('\\' :: 'u' :: digits ++ '\\' :: 'u' :: digits')

theorem escape?_letter {l : Char} (h : escapeLetter? l = some c) (s : Source) :
    Yields (escape? (Piece.char l :: s)) c s := by
  refine ⟨by simp, ?_⟩
  rw [escape?]
  · simp only [h]
  · rintro ⟨⟩
    cases h

theorem hexQuad_unit {digits : List Char} {n : Nat} (h : HexUnit digits n) (s : Source) :
    Yields (hexQuad (digits.map Piece.char ++ s)) n s := by
  cases h with
  | @digits a b c d i j k l ha hb hc hd =>
    have hpiece : ∀ c, hexPiece? (Piece.char c) = Text.hexValue? c := fun _ => rfl
    show Yields (hexQuad (Piece.char a :: Piece.char b :: Piece.char c :: Piece.char d :: s)) _ s
    refine ⟨by simp only [List.length_cons]; omega, ?_⟩
    rw [hexQuad]
    simp only [hpiece, ha, hb, hc, hd]

theorem escape?_unit {digits : List Char} (h : HexUnit digits c.toNat) (s : Source) :
    Yields (escape? (Piece.char 'u' :: (digits.map Piece.char ++ s))) c s := by
  obtain ⟨shorter, hquad⟩ := hexQuad_unit h s
  -- a character is no surrogate
  have hvalid : c.toNat < 0xD800 ∨ 0xDFFF < c.toNat ∧ c.toNat < 0x110000 := c.valid
  refine ⟨by simp only [List.length_cons]; omega, ?_⟩
  rw [escape?]
  simp only [hquad]
  rw [if_neg (by simp; omega), if_neg (by simp; omega), Char.ofNat_toNat]

theorem escape?_pair {digits digits' : List Char} {high low : Nat} (hhigh : HexUnit digits high)
    (hlow : HexUnit digits' low) (high_ge : 0xD800 ≤ high) (high_le : high ≤ 0xDBFF)
    (low_ge : 0xDC00 ≤ low) (low_le : low ≤ 0xDFFF)
    (h : c.toNat = 0x10000 + (high - 0xD800) * 0x400 + (low - 0xDC00)) (s : Source) :
    Yields (escape? (Piece.char 'u' :: (digits.map Piece.char ++
      Piece.char '\\' :: Piece.char 'u' :: (digits'.map Piece.char ++ s)))) c s := by
  obtain ⟨h1, hquad⟩ := hexQuad_unit hhigh
    (Piece.char '\\' :: Piece.char 'u' :: (digits'.map Piece.char ++ s))
  obtain ⟨h2, hquad'⟩ := hexQuad_unit hlow s
  refine ⟨by simp only [List.length_cons, List.length_append] at h1 h2 ⊢; omega, ?_⟩
  rw [escape?]
  simp only [hquad]
  rw [if_neg (by simp; omega), if_pos (by simp; omega)]
  unfold lowSurrogate
  simp only [hquad']
  rw [if_pos (by simp; omega), ← h, Char.ofNat_toNat]
  rfl

theorem textBody_spelling (h : Spelling c spelled) {s : Source} {body : List Piece} {rest : Source}
    (hbody : Yields (textBody s) body rest) :
    Yields (textBody (spelled.map Piece.char ++ s)) (Piece.char c :: body) rest := by
  cases h with
  | plain hquote hbackslash hcontrol => exact textBody_plain hquote hbackslash hcontrol hbody
  | letter h => exact textBody_backslash (escape?_letter h s) hbody
  | unit h => exact textBody_backslash (escape?_unit h s) hbody
  | pair hhigh hlow high_ge high_le low_ge low_le h =>
    have hpair := escape?_pair hhigh hlow high_ge high_le low_ge low_le h s
    rw [List.map_append, List.append_assoc]
    exact textBody_backslash hpair hbody

/-! ## Texts -/

/-- Characters one after the other, each of them written in one of the ways. -/
inductive SpelledText : List Char → List Char → Prop where
  /-- There are none. -/
  | nil : SpelledText [] []
  /-- The first one is written before the others. -/
  | cons {c : Char} {cs first others : List Char} (hfirst : Spelling c first)
    (hothers : SpelledText cs others) : SpelledText (c :: cs) (first ++ others)

theorem textBody_spelled {cs : List Char} (h : SpelledText cs spelled) (rest : Source) :
    Yields (textBody (spelled.map Piece.char ++ Piece.char '"' :: rest)) (cs.map Piece.char)
      rest := by
  induction h with
  | nil =>
    refine ⟨by simp, ?_⟩
    show textBody (Piece.char '"' :: rest) = _
    rw [textBody]
    rfl
  | cons hfirst _ ih =>
    rw [List.map_append, List.append_assoc]
    exact textBody_spelling hfirst ih

/-- However its characters are written, a text is read as these. -/
theorem openText_spelled {text : String} (h : SpelledText text.toList spelled) (rest : Source) :
    Yields (openText (spelled.map Piece.char ++ Piece.char '"' :: rest)) text rest := by
  obtain ⟨shorter, hbody⟩ := textBody_spelled h rest
  refine ⟨shorter, ?_⟩
  unfold openText
  simp only [hbody, decodeText_chars, String.ofList_toList]
  rfl

/-- One of the ways is that of the broker. -/
theorem spelling_escape (c : Char) : Spelling c (escape c) := by
  fun_cases escape c
  case case8 hquote hbackslash _ _ _ _ _ hcontrol =>
    have hzero : Text.hexValue? '0' = some 0 := rfl
    have hvalue : ((0 * 16 + 0) * 16 + c.toNat / 16) * 16 + c.toNat % 16 = c.toNat := by omega
    have hdigits := HexUnit.digits hzero hzero
      (hexPiece?_hexDigit (show c.toNat / 16 < 16 by omega))
      (hexPiece?_hexDigit (show c.toNat % 16 < 16 by omega))
    rw [hvalue] at hdigits
    exact .unit hdigits
  case case9 hquote hbackslash _ _ _ _ _ hcontrol => exact .plain hquote hbackslash hcontrol
  all_goals exact .letter rfl

theorem spelledText_escape (l : List Char) : SpelledText l (l.flatMap escape) := by
  induction l with
  | nil => exact .nil
  | cons c l ih =>
    rw [List.flatMap_cons]
    exact .cons (spelling_escape c) ih

/-! ## Records of texts -/

/-- Characters that may stand between tokens. -/
def Blank (l : List Char) : Prop := ∀ c ∈ l, isSpace (Piece.char c) = true

/-- What may stand before the name of a member. There is a comma, unless it is the first one. -/
inductive Separates : Bool → List Char → Prop where
  | first {blanks : List Char} (h : Blank blanks) : Separates true blanks
  | next {before after : List Char} (hbefore : Blank before) (hafter : Blank after) :
    Separates false (before ++ ',' :: after)

/-- Named texts and a closing bracket. The truth value says whether the next member is the first one.
-/
inductive SpelledMembers : Bool → List (String × String) → List Char → Prop where
  /-- There are no more members. -/
  | closing {first : Bool} {blanks : List Char} (h : Blank blanks) :
    SpelledMembers first [] (blanks ++ ['\x7d'])
  /-- A member stands before the others. -/
  | member {first : Bool} {name text : String} {ms : List (String × String)}
    {separator spelledName before after spelledText others : List Char}
    (hseparator : Separates first separator) (hname : SpelledText name.toList spelledName)
    (hbefore : Blank before) (hafter : Blank after)
    (htext : SpelledText text.toList spelledText) (hothers : SpelledMembers false ms others) :
    SpelledMembers first ((name, text) :: ms)
      (separator ++ ['"'] ++ spelledName ++ ['"'] ++ before ++ [':'] ++ after ++ ['"'] ++
        spelledText ++ ['"'] ++ others)

/-- A whole document that is a record of texts. -/
inductive SpelledRecord (ms : List (String × String)) : String → Prop where
  /-- Blanks may stand around the record. -/
  | record {before members after : List Char} (hbefore : Blank before)
    (hmembers : SpelledMembers true ms members) (hafter : Blank after) :
    SpelledRecord ms (String.ofList (before ++ ['\x7b'] ++ members ++ after))

/-- The members are texts that fill the fields of a draft one by one. -/
inductive FillsTexts (shape : Shape σ) : σ → List (String × String) → σ → Prop where
  /-- All fields that are needed are there. -/
  | nil {draft : σ}
    (complete : (shape.fields.find? fun f => f.need = .required && !f.given draft) = none) :
    FillsTexts shape draft [] draft
  /-- A field that is not there yet is filled. -/
  | cons {draft final : σ} {name text : String} {ms : List (String × String)} {need : Need}
    {get : σ → Option String} {put : σ → String → σ}
    (found : shape.fields.find? (·.name == name) = some (.of name need textValue get put))
    (free : get draft = none) (others : FillsTexts shape (put draft text) ms final) :
    FillsTexts shape draft ((name, text) :: ms) final

theorem textValue_spelled {blanks : List Char} (hblanks : Blank blanks) {text : String}
    (h : SpelledText text.toList spelled) (rest : Source) :
    Yields (textValue (blanks.map Piece.char ++ Piece.char '"' ::
      (spelled.map Piece.char ++ Piece.char '"' :: rest))) text rest := by
  refine leading_yields (skipBlanks_append hblanks rfl _) ?_
  rw [if_pos rfl]
  exact openText_spelled h rest

theorem member_spelled {shape : Shape σ} {draft : σ} {name text : String} {need : Need}
    {get : σ → Option String} {put : σ → String → σ}
    (found : shape.fields.find? (·.name == name) = some (.of name need textValue get put))
    (free : get draft = none) {before after : List Char} (hbefore : Blank before)
    (hafter : Blank after) (htext : SpelledText text.toList spelled) (rest : Source) :
    Yields (member shape draft name (before.map Piece.char ++ Piece.char ':' ::
      (after.map Piece.char ++ Piece.char '"' :: (spelled.map Piece.char ++
        Piece.char '"' :: rest)))) (put draft text) rest := by
  obtain ⟨h1, hcolon⟩ := afterColon_colon (skipBlanks_append hbefore (p := Piece.char ':') rfl
    (after.map Piece.char ++ Piece.char '"' :: (spelled.map Piece.char ++ Piece.char '"' :: rest)))
  obtain ⟨h2, hread⟩ := textValue_spelled hafter htext rest
  have hgiven : (Field.of name need textValue get put).given draft = false := by
    show (get draft).isSome = false
    rw [free]
    rfl
  have hput : ∀ s, (Field.of name need textValue get put).read draft s =
      (textValue s).map fun t => t.map (put draft) := fun _ => rfl
  refine ⟨by omega, ?_⟩
  unfold member
  simp only [found, hgiven, hcolon, hput, hread]
  rfl

theorem nextMember_separated {first : Bool} {separator : List Char} (h : Separates first separator)
    (s : Source) :
    ∃ shorter, nextMember first (separator.map Piece.char ++ Piece.char '"' :: s) =
      .ok (some ⟨s, shorter⟩) := by
  cases h with
  | first h => exact nextMember_first (skipBlanks_append h rfl s)
  | @next before after hbefore hafter =>
    rw [List.map_append, List.append_assoc]
    exact nextMember_comma (skipBlanks_append hbefore rfl _) (skipBlanks_append hafter rfl s)

/-- What is spelled of a member, cut where it is read piece by piece. -/
theorem map_spelledMember (separator name before after text others : List Char) (rest : Source) :
    (separator ++ ['"'] ++ name ++ ['"'] ++ before ++ [':'] ++ after ++ ['"'] ++ text ++ ['"'] ++
        others).map Piece.char ++ rest =
      separator.map Piece.char ++ Piece.char '"' :: (name.map Piece.char ++ Piece.char '"' ::
        (before.map Piece.char ++ Piece.char ':' :: (after.map Piece.char ++ Piece.char '"' ::
          (text.map Piece.char ++ Piece.char '"' :: (others.map Piece.char ++ rest))))) := by
  simp only [List.map_append, List.map_cons, List.append_assoc, List.cons_append,
    List.nil_append]

theorem members_spelled {shape : Shape σ} {first : Bool} {ms : List (String × String)}
    (h : SpelledMembers first ms spelled) {draft final : σ}
    (fills : FillsTexts shape draft ms final) (rest : Source) :
    Yields (members shape draft first (spelled.map Piece.char ++ rest)) final rest := by
  induction h generalizing draft with
  | closing hblanks =>
    cases fills with
    | nil complete =>
      refine members_closing _ complete ?_
      rw [List.map_append, List.append_assoc]
      exact skipBlanks_append hblanks rfl rest
  | member hseparator hname hbefore hafter htext hothers ih =>
    cases fills with
    | cons found free others =>
      rw [map_spelledMember]
      exact members_member (nextMember_separated hseparator _) (openText_spelled hname _)
        (member_spelled found free hbefore hafter htext _) (ih others)

/-- However a record of texts is written, it is read as what its members make of a draft. -/
theorem recordOf_spelled {shape : Shape σ} {ms : List (String × String)} {document : String}
    (h : SpelledRecord ms document) {blank final : σ} (fills : FillsTexts shape blank ms final) :
    decode (recordOf shape blank) (Utf8.ofText document) = .ok final := by
  cases h with
  | @record before spelled after hbefore hmembers hafter =>
    have hread : Yields (recordOf shape blank (before.map Piece.char ++ Piece.char '\x7b' ::
        (spelled.map Piece.char ++ after.map Piece.char))) final (after.map Piece.char) := by
      refine leading_yields (skipBlanks_append hbefore rfl _) ?_
      rw [if_pos rfl]
      exact members_spelled hmembers fills _
    have hblanks : skipBlanks (after.map Piece.char) = [] := by
      unfold skipBlanks
      rw [List.dropWhile_eq_nil_iff, List.forall_mem_map]
      exact hafter
    obtain ⟨shorter, hread⟩ := hread
    unfold decode Utf8.ofText
    have hsource : (before ++ ['\x7b'] ++ spelled ++ after).map Piece.char =
        before.map Piece.char ++ Piece.char '\x7b' ::
          (spelled.map Piece.char ++ after.map Piece.char) := by
      simp
    rw [String.toList_ofList, hsource, hread]
    simp [hblanks]

/-- A value that is made of what another reader takes. -/
theorem decode_map {α β : Type} (r : Reader α) (f : α → β) (s : Source) :
    decode (fun s => (r s).map fun t => t.map f) s = (decode r s).map f := by
  unfold decode
  cases hread : r s with
  | error e => simp only [hread, Except.map]
  | ok t =>
    simp only [hread, Except.map, Taken.map]
    split <;> rfl

/-! ## What the broker writes -/

/-- The record of named texts. -/
def ofTexts (ms : List (String × String)) : Json := .record (ms.map fun m => (m.1, .text m.2))

theorem spelledMembers_writeMembers (layout : Layout) (depth : Nat) (ms : List (String × String)) :
    SpelledMembers false ms (writeMembers layout depth (ms.map fun m => (m.1, .text m.2))) := by
  induction ms with
  | nil => exact .closing (isSpace_newline layout depth)
  | cons m ms ih =>
    obtain ⟨name, text⟩ := m
    obtain ⟨after, hcolon, hafter⟩ := layout.exists_colon
    have hmember := SpelledMembers.member
      (.next (List.forall_mem_nil _) (isSpace_newline layout (depth + 1)))
      (spelledText_escape name.toList) (List.forall_mem_nil _) hafter
      (spelledText_escape text.toList) ih
    simpa [writeMembers, write, writeText, hcolon] using hmember

theorem spelledRecord_render (layout : Layout) (ms : List (String × String)) :
    SpelledRecord ms ((ofTexts ms).render layout) := by
  have hnil : Blank [] := List.forall_mem_nil _
  unfold render ofTexts
  cases ms with
  | nil => exact .record hnil (.closing hnil) hnil
  | cons m ms =>
    obtain ⟨name, text⟩ := m
    obtain ⟨after, hcolon, hafter⟩ := layout.exists_colon
    have hmember := SpelledMembers.member (.first (isSpace_newline layout 1))
      (spelledText_escape name.toList) hnil hafter (spelledText_escape text.toList)
      (spelledMembers_writeMembers layout 0 ms)
    have hrecord := SpelledRecord.record hnil hmember hnil
    simpa [write, writeText, hcolon] using hrecord

end ChainBroker.Json
