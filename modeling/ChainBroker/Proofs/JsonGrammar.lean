import ChainBroker.Proofs.JsonSpelling

/-!
# The grammar of JSON

A document derives from a tree (`Derives`): numbers stand for themselves, texts are spelled in any of
their ways, and blanks may stand around every token. Any tree may stand where a value is not wanted,
for whatever derives from it is passed over (`skipValue_derives`).

1. A number ends where nothing continues it (`Stops`), so its digits are taken as a whole
   (`skipNumeral_spelled`).
2. A text is passed over escape by escape (`skipText_spelled`).
3. Lists and records are passed over item by item, by induction on the derivation (`Derives.skips`).
-/

namespace ChainBroker.Json

open Utf8 (Piece)

/-! ## Trees -/

/-- What a document says. A number is kept as it is written. -/
inductive Tree where
  /-- The null value. -/
  | null
  /-- A truth value. -/
  | bool (value : Bool)
  | number (written : List Char)
  | text (value : String)
  /-- A list of values. -/
  | list (items : List Tree)
  /-- Named values. -/
  | record (members : List (String × Tree))

/-- Decimal digits, at least one of them. -/
structure Digits (l : List Char) : Prop where
  nonempty : l ≠ []
  isDigit : ∀ c ∈ l, c.isDigit = true

/-- The digits before the point: no zero stands before others. -/
inductive SpelledWhole : List Char → Prop where
  | zero : SpelledWhole ['0']
  | digits {c : Char} {l : List Char} (h : Digits (c :: l)) (nonzero : c ≠ '0') :
    SpelledWhole (c :: l)

/-- A point with digits, or nothing. -/
inductive SpelledFraction : List Char → Prop where
  | none : SpelledFraction []
  | some {l : List Char} (h : Digits l) : SpelledFraction ('.' :: l)

/-- An exponent, or nothing. -/
inductive SpelledExponent : List Char → Prop where
  | none : SpelledExponent []
  | some {mark : Char} {sign l : List Char} (hmark : mark = 'e' ∨ mark = 'E')
    (hsign : sign = [] ∨ sign = ['-'] ∨ sign = ['+']) (h : Digits l) :
    SpelledExponent (mark :: (sign ++ l))

/-- A number. -/
inductive SpelledNumber : List Char → Prop where
  | number {sign whole fraction exponent : List Char} (hsign : sign = [] ∨ sign = ['-'])
    (hwhole : SpelledWhole whole) (hfraction : SpelledFraction fraction)
    (hexponent : SpelledExponent exponent) :
    SpelledNumber (sign ++ (whole ++ (fraction ++ exponent)))

/-- The parts of a document. The truth values say whether the next item or member is the first one.
-/
inductive Phrase where
  | value (t : Tree)
  /-- The rest of a list, with its closing bracket. -/
  | items (first : Bool) (ts : List Tree)
  /-- The rest of a record, with its closing bracket. -/
  | members (first : Bool) (ms : List (String × Tree))

/-- The ways in which the parts of a document may be written. -/
inductive Derives : Phrase → List Char → Prop where
  | nullWord : Derives (.value .null) ['n', 'u', 'l', 'l']
  | trueWord : Derives (.value (.bool true)) ['t', 'r', 'u', 'e']
  | falseWord : Derives (.value (.bool false)) ['f', 'a', 'l', 's', 'e']
  | number {l : List Char} (h : SpelledNumber l) : Derives (.value (.number l)) l
  | text {s : String} {spelled : List Char} (h : SpelledText s.toList spelled) :
    Derives (.value (.text s)) ('"' :: (spelled ++ ['"']))
  | list {ts : List Tree} {l : List Char} (h : Derives (.items true ts) l) :
    Derives (.value (.list ts)) ('[' :: l)
  | record {ms : List (String × Tree)} {l : List Char} (h : Derives (.members true ms) l) :
    Derives (.value (.record ms)) ('\x7b' :: l)
  | noItem {first : Bool} {blanks : List Char} (h : Blank blanks) :
    Derives (.items first []) (blanks ++ [']'])
  | item {first : Bool} {t : Tree} {ts : List Tree} {separator value others : List Char}
    (hseparator : Separates first separator) (hvalue : Derives (.value t) value)
    (hothers : Derives (.items false ts) others) :
    Derives (.items first (t :: ts)) (separator ++ (value ++ others))
  | noMember {first : Bool} {blanks : List Char} (h : Blank blanks) :
    Derives (.members first []) (blanks ++ ['\x7d'])
  | member {first : Bool} {name : String} {t : Tree} {ms : List (String × Tree)}
    {separator spelledName before after value others : List Char}
    (hseparator : Separates first separator) (hname : SpelledText name.toList spelledName)
    (hbefore : Blank before) (hafter : Blank after) (hvalue : Derives (.value t) value)
    (hothers : Derives (.members false ms) others) :
    Derives (.members first ((name, t) :: ms))
      (separator ++ '"' :: (spelledName ++ '"' :: (before ++ ':' :: (after ++ (value ++ others)))))

/-! ## Where a number ends -/

/-- Whether a number goes on with the piece. -/
def continuesNumber (p : Piece) : Bool :=
  isDigit p || p = .char '.' || p = .char 'e' || p = .char 'E'

/-- No number goes on here. -/
def Stops (s : Source) : Prop := ∀ p ∈ s.head?, continuesNumber p = false

/-- A number stops in front of what does not continue it. -/
theorem Stops.cons {p : Piece} (h : continuesNumber p = false) (s : Source) : Stops (p :: s) := by
  simpa [Stops] using h

/-- A blank does not continue a number. -/
theorem continuesNumber_of_isSpace {p : Piece} (h : isSpace p = true) :
    continuesNumber p = false := by
  cases p with
  | broken => cases h
  | char c =>
    simp only [isSpace, Bool.or_eq_true, beq_iff_eq] at h
    rcases h with ((rfl | rfl) | rfl) | rfl <;> rfl

/-- A number ends before blanks, and before what does not continue it. -/
theorem stops_blanks {blanks : List Char} (h : Blank blanks) {s : Source} (hs : Stops s) :
    Stops (blanks.map .char ++ s) := by
  cases blanks with
  | nil => exact hs
  | cons c blanks => exact .cons (continuesNumber_of_isSpace (h c List.mem_cons_self)) _

/-- A number ends before the next item. -/
theorem Derives.stops_items {ts : List Tree} {l : List Char} (h : Derives (.items false ts) l)
    (rest : Source) : Stops (l.map .char ++ rest) := by
  cases h with
  | noItem hblanks =>
    rw [List.map_append, List.append_assoc]
    exact stops_blanks hblanks (.cons rfl rest)
  | item hseparator =>
    cases hseparator with
    | next hbefore =>
      simp only [List.map_append, List.append_assoc]
      exact stops_blanks hbefore (.cons rfl _)

/-- A number ends before the next member. -/
theorem Derives.stops_members {ms : List (String × Tree)} {l : List Char}
    (h : Derives (.members false ms) l) (rest : Source) : Stops (l.map .char ++ rest) := by
  cases h with
  | noMember hblanks =>
    rw [List.map_append, List.append_assoc]
    exact stops_blanks hblanks (.cons rfl rest)
  | member hseparator =>
    cases hseparator with
    | next hbefore =>
      simp only [List.map_append, List.append_assoc]
      exact stops_blanks hbefore (.cons rfl _)

/-! ## Numbers -/

/-- Digits are taken up to what is none. -/
theorem takeDigits_append {l : List Char} (h : ∀ c ∈ l, c.isDigit = true) {s : Source}
    (hs : ∀ p ∈ s.head?, isDigit p = false) :
    takeDigits (l.map .char ++ s) = (l.map (digitValue ∘ .char), s) := by
  have htake : s.takeWhile isDigit = [] := by
    cases s with
    | nil => rfl
    | cons p s => exact List.takeWhile_cons_of_neg (by simpa using hs p rfl)
  have hdrop : s.dropWhile isDigit = s := by
    cases s with
    | nil => rfl
    | cons p s => exact List.dropWhile_cons_of_neg (by simpa using hs p rfl)
  have hl : ∀ p ∈ l.map Piece.char, isDigit p = true := by
    rw [List.forall_mem_map]
    exact h
  unfold takeDigits
  rw [List.takeWhile_append_of_pos hl, List.dropWhile_append_of_pos hl, htake, hdrop,
    List.append_nil, List.map_map]

theorem Stops.not_isDigit {s : Source} (h : Stops s) : ∀ p ∈ s.head?, isDigit p = false := by
  intro p hp
  have := h p hp
  simp only [continuesNumber, Bool.or_eq_false_iff] at this
  exact this.1.1.1

/-- A reading that may have taken nothing. -/
def Leaves {α : Type} {s : Source} (reading : Except Fault (α × Remainder s)) (rest : Source) :
    Prop :=
  ∃ a shorter, reading = .ok (a, ⟨rest, shorter⟩)

/-- A mark of an exponent, a sign or none, and digits. -/
theorem exponentPart_mark {mark : Char} (hmark : mark = 'e' ∨ mark = 'E') {s t rest : Source}
    {d : Nat} {ds : List Nat} (htake : takeDigits t = (d :: ds, rest))
    (hsign : s = .char '-' :: t ∨ s = .char '+' :: t ∨
      s = t ∧ ∀ p ∈ s.head?, p ≠ .char '-' ∧ p ≠ .char '+') :
    Leaves (exponentPart (.char mark :: s)) rest := by
  have hmark : (mark = 'e' || mark = 'E') = true := by simpa using hmark
  unfold exponentPart
  simp only [hmark, if_true]
  -- a sign of either kind, or none
  rcases hsign with rfl | rfl | ⟨rfl, hs⟩
  · split
    · next h => cases h.symm.trans htake
    · next h =>
      cases h.symm.trans htake
      exact ⟨_, _, rfl⟩
  · split
    · next h => cases h.symm.trans htake
    · next h =>
      cases h.symm.trans htake
      exact ⟨_, _, rfl⟩
  · split
    · next h =>
      split at h
      · exact absurd rfl (hs _ rfl).1
      · exact absurd rfl (hs _ rfl).2
      · cases h.symm.trans htake
    · next h =>
      split at h
      · exact absurd rfl (hs _ rfl).1
      · exact absurd rfl (hs _ rfl).2
      · cases h.symm.trans htake
        exact ⟨_, _, rfl⟩

/-- An exponent is taken whole, -/
theorem exponentPart_spelled {l : List Char} (h : SpelledExponent l) {rest : Source}
    (stops : Stops rest) : Leaves (exponentPart (l.map .char ++ rest)) rest := by
  cases h with
  | none =>
    refine ⟨none, Nat.le_refl _, ?_⟩
    show exponentPart rest = _
    unfold exponentPart
    split
    · next c s =>
      have hc := stops (.char c) rfl
      simp only [continuesNumber, Bool.or_eq_false_iff, decide_eq_false_iff_not, Piece.char.injEq]
        at hc
      rw [if_neg (by simpa using ⟨hc.1.2, hc.2⟩)]
      rfl
    · rfl
  | @some mark sign ds hmark hsign hds =>
    have htake := takeDigits_append hds.isDigit stops.not_isDigit
    obtain ⟨c, ds, rfl⟩ := List.exists_cons_of_ne_nil hds.nonempty
    have hc : c.isDigit = true := hds.isDigit c List.mem_cons_self
    refine exponentPart_mark hmark htake ?_
    rcases hsign with rfl | rfl | rfl
    · refine .inr (.inr ⟨rfl, ?_⟩)
      rintro p ⟨⟩
      constructor <;> rintro ⟨⟩ <;> cases hc
    · exact .inl rfl
    · exact .inr (.inl rfl)

/-- A point, and digits. -/
theorem fractionPart_point {s rest : Source} {d : Nat} {ds : List Nat}
    (htake : takeDigits s = (d :: ds, rest)) : Leaves (fractionPart (.char '.' :: s)) rest := by
  unfold fractionPart
  simp only
  split
  · next h => cases h.symm.trans htake
  · next h =>
    cases h.symm.trans htake
    exact ⟨_, _, rfl⟩

/-- and so is a fraction. -/
theorem fractionPart_spelled {l : List Char} (h : SpelledFraction l) {rest : Source}
    (digitless : ∀ p ∈ rest.head?, isDigit p = false) (pointless : rest.head? ≠ some (.char '.')) :
    Leaves (fractionPart (l.map .char ++ rest)) rest := by
  cases h with
  | none =>
    refine ⟨none, Nat.le_refl _, ?_⟩
    show fractionPart rest = _
    unfold fractionPart
    split
    · exact absurd rfl pointless
    · rfl
  | @some ds hds =>
    have htake := takeDigits_append hds.isDigit digitless
    obtain ⟨c, ds, rfl⟩ := List.exists_cons_of_ne_nil hds.nonempty
    exact fractionPart_point htake

/-- What stands behind the digits before the point. -/
theorem numeral_of_parts {s s₁ s₂ rest : Source} {d : Nat} {ds : List Nat}
    (htake : takeDigits s = (d :: ds, s₁)) (hwhole : d = 0 → ds = [])
    (hfraction : Leaves (fractionPart s₁) s₂) (hexponent : Leaves (exponentPart s₂) rest) :
    ∃ n, Yields (numeral s) n rest := by
  obtain ⟨fraction, h1, hfraction⟩ := hfraction
  obtain ⟨exponent, h2, hexponent⟩ := hexponent
  have h3 := length_lt_of_takeDigits htake
  refine ⟨⟨d :: ds, fraction, exponent⟩, by omega, ?_⟩
  unfold numeral
  split
  · next h => cases h.symm.trans htake
  · next h =>
    cases h.symm.trans htake
    cases hwhole rfl
  · next h =>
    cases h.symm.trans htake
    simp only [hfraction, hexponent]

theorem digitValue_ne_zero {c : Char} (h : c.isDigit = true) (nonzero : c ≠ '0') :
    digitValue (.char c) ≠ 0 := by
  intro hzero
  have hle : '0'.toNat ≤ c.toNat := (Char.isDigit_iff_toNat.mp h).1
  refine nonzero (Char.toNat_inj.mp ?_)
  unfold digitValue at hzero
  simp only at hzero
  omega

/-- The digits before the point are taken as a whole. -/
theorem SpelledWhole.take {l : List Char} (h : SpelledWhole l) {s : Source}
    (digitless : ∀ p ∈ s.head?, isDigit p = false) :
    ∃ d ds, takeDigits (l.map .char ++ s) = (d :: ds, s) ∧ (d = 0 → ds = []) := by
  cases h with
  | zero => exact ⟨0, [], takeDigits_append (l := ['0']) (by simp) digitless, fun _ => rfl⟩
  | digits h nonzero =>
    refine ⟨_, _, takeDigits_append h.isDigit digitless, fun hzero => ?_⟩
    exact absurd hzero (digitValue_ne_zero (h.isDigit _ List.mem_cons_self) nonzero)

/-- What follows digits and is no number any more, or a point, or an exponent. -/
theorem numeral_spelled {whole fraction exponent : List Char} (hwhole : SpelledWhole whole)
    (hfraction : SpelledFraction fraction) (hexponent : SpelledExponent exponent) {rest : Source}
    (stops : Stops rest) :
    ∃ n, Yields (numeral ((whole ++ (fraction ++ exponent)).map .char ++ rest)) n rest := by
  have afterFraction : (∀ p ∈ (exponent.map Piece.char ++ rest).head?, isDigit p = false) ∧
      (exponent.map Piece.char ++ rest).head? ≠ some (.char '.') := by
    cases hexponent with
    | none => 
      refine ⟨stops.not_isDigit, fun h => ?_⟩
      cases stops _ h
    | some hmark =>
      rcases hmark with rfl | rfl <;> exact ⟨by rintro p ⟨⟩; rfl, by simp⟩
  have afterWhole : ∀ p ∈ (fraction.map Piece.char ++ (exponent.map Piece.char ++ rest)).head?,
      isDigit p = false := by
    cases hfraction with
    | none => exact afterFraction.1
    | some => rintro p ⟨⟩; rfl
  obtain ⟨d, ds, htake, hzero⟩ := hwhole.take afterWhole
  rw [List.map_append, List.append_assoc, List.map_append, List.append_assoc]
  exact numeral_of_parts htake hzero (fractionPart_spelled hfraction afterFraction.1 afterFraction.2)
    (exponentPart_spelled hexponent stops)

/-- A number without its sign is skipped. -/
theorem skipNumeral_spelled {whole fraction exponent : List Char} (hwhole : SpelledWhole whole)
    (hfraction : SpelledFraction fraction) (hexponent : SpelledExponent exponent) {rest : Source}
    (stops : Stops rest) :
    Yields (skipNumeral ((whole ++ (fraction ++ exponent)).map .char ++ rest)) () rest := by
  obtain ⟨n, shorter, hnumeral⟩ := numeral_spelled hwhole hfraction hexponent stops
  refine ⟨shorter, ?_⟩
  unfold skipNumeral
  rw [hnumeral]
  rfl

/-! ## Texts -/

theorem skipText_plain {c : Char} (hquote : c ≠ '"') (hbackslash : c ≠ '\\')
    (hcontrol : ¬c.toNat < 0x20) {s rest : Source} (hs : Yields (skipText s) () rest) :
    Yields (skipText (.char c :: s)) () rest := by
  obtain ⟨h1, hs⟩ := hs
  refine ⟨Nat.lt_succ_of_lt h1, ?_⟩
  rw [skipText]
  · rw [if_neg (by simpa [isControl] using hcontrol)]
    simp only [hs]
    rfl
  all_goals simp [hquote, hbackslash]

theorem skipText_letter {l : Char} (h : (escapeLetter? l).isSome = true) {s rest : Source}
    (hs : Yields (skipText s) () rest) :
    Yields (skipText (.char '\\' :: .char l :: s)) () rest := by
  obtain ⟨h1, hs⟩ := hs
  refine ⟨by simp only [List.length_cons]; omega, ?_⟩
  rw [skipText]
  · simp only [Piece.char?, Option.bind_some, h, if_true, hs]
    rfl
  · rintro ⟨⟩
    cases h

theorem skipText_unit {digits : List Char} {n : Nat} (h : HexUnit digits n) {s rest : Source}
    (hs : Yields (skipText s) () rest) :
    Yields (skipText (.char '\\' :: .char 'u' :: (digits.map .char ++ s))) () rest := by
  obtain ⟨h1, hquad⟩ := hexQuad_unit h s
  obtain ⟨h2, hs⟩ := hs
  refine ⟨by simp only [List.length_cons]; omega, ?_⟩
  rw [skipText]
  simp only [hquad, hs]
  rfl

/-- However a character is spelled, it is skipped. -/
theorem skipText_spelling {c : Char} {spelled : List Char} (h : Spelling c spelled)
    {s rest : Source} (hs : Yields (skipText s) () rest) :
    Yields (skipText (spelled.map .char ++ s)) () rest := by
  cases h with
  | plain hquote hbackslash hcontrol => exact skipText_plain hquote hbackslash hcontrol hs
  | letter h => exact skipText_letter (by rw [h]; rfl) hs
  | unit h => exact skipText_unit h hs
  | pair hhigh hlow =>
    rw [List.map_append, List.append_assoc]
    exact skipText_unit hhigh (skipText_unit hlow hs)

/-- A text is skipped up to the closing mark. -/
theorem skipText_spelled {cs spelled : List Char} (h : SpelledText cs spelled) (rest : Source) :
    Yields (skipText (spelled.map .char ++ .char '"' :: rest)) () rest := by
  induction h with
  | nil =>
    refine ⟨Nat.lt_succ_self _, ?_⟩
    show skipText (.char '"' :: rest) = _
    rw [skipText]
  | cons hfirst _ ih =>
    rw [List.map_append, List.append_assoc]
    exact skipText_spelling hfirst ih

/-! ## Values -/

/-- The first character of a value is no blank and ends no list, and it tells of which kind the value
is. -/
structure Starts (c : Char) (t : Tree) : Prop where
  notSpace : isSpace (.char c) = false
  notClosing : c ≠ ']'
  null : c = 'n' ↔ t = .null
  text : c = '"' ↔ ∃ s, t = .text s
  list : c = '[' ↔ ∃ ts, t = .list ts

/-- A number starts with a sign or a digit. -/
theorem SpelledNumber.exists_cons {l : List Char} (h : SpelledNumber l) :
    ∃ c s, l = c :: s ∧ (c = '-' ∨ c.isDigit = true) := by
  cases h with
  | number hsign hwhole =>
    rcases hsign with rfl | rfl
    · cases hwhole with
      | zero => exact ⟨'0', _, rfl, .inr rfl⟩
      | digits h => exact ⟨_, _, rfl, .inr (h.isDigit _ List.mem_cons_self)⟩
    · exact ⟨'-', _, rfl, .inl rfl⟩

/-- What a value starts with tells what kind of value it is. -/
theorem Derives.exists_starts {t : Tree} {l : List Char} (h : Derives (.value t) l) :
    ∃ c s, l = c :: s ∧ Starts c t := by
  cases h with
  | number h =>
    obtain ⟨c, s, rfl, hc⟩ := h.exists_cons
    refine ⟨c, s, rfl, ?_⟩
    -- none of the other kinds starts with a sign or a digit
    have hne : ∀ other : Char, other ≠ '-' → other.isDigit = false → c ≠ other := by
      rintro other hsign hdigit rfl
      rcases hc with rfl | hc
      · exact hsign rfl
      · rw [hdigit] at hc
        cases hc
    refine ⟨?_, hne _ (by decide) rfl, ?_, ?_, ?_⟩
    · simp [isSpace, hne]
    · simp [hne]
    · simp [hne]
    · simp [hne]
  | nullWord => exact ⟨_, _, rfl, rfl, by decide, by simp, by simp, by simp⟩
  | trueWord => exact ⟨_, _, rfl, rfl, by decide, by simp, by simp, by simp⟩
  | falseWord => exact ⟨_, _, rfl, rfl, by decide, by simp, by simp, by simp⟩
  | text => exact ⟨_, _, rfl, rfl, by decide, by simp, by simp, by simp⟩
  | list => exact ⟨_, _, rfl, rfl, by decide, by simp, by simp, by simp⟩
  | record => exact ⟨_, _, rfl, rfl, by decide, by simp, by simp, by simp⟩

/-! ## Values that are passed over -/

section

variable {s t u rest : Source} {c : Char}

/-- A value with a first character that is passed over before the rest of it. -/
theorem skipValue_behind (h : skipBlanks s = .char c :: t)
    (ht : c = '"' ∧ Yields (skipText t) () rest ∨ c = '[' ∧ Yields (skipList t) () rest ∨
      c = '\x7b' ∧ Yields (skipRecord t) () rest ∨ c = '-' ∧ Yields (skipNumeral t) () rest) :
    Yields (skipValue s) () rest := by
  rcases ht with ⟨rfl, h1, ht⟩ | ⟨rfl, h1, ht⟩ | ⟨rfl, h1, ht⟩ | ⟨rfl, h1, ht⟩
  all_goals
    refine ⟨h1.trans (length_lt_of_skipBlanks h), ?_⟩
    rw [skipValue]
    split
    · next h' => cases h.symm.trans h'
    · next h' => cases h.symm.trans h'
    · next h' =>
      cases h.symm.trans h'
      simp only [ht]
      rfl

theorem skipValue_digit (h : skipBlanks s = .char c :: t) (hc : c.isDigit = true)
    (ht : Yields (skipNumeral (.char c :: t)) () rest) : Yields (skipValue s) () rest := by
  obtain ⟨h1, ht⟩ := ht
  have h2 := length_lt_of_skipBlanks h
  have hne : ∀ other : Char, other.isDigit = false → c ≠ other := by
    rintro other hother rfl
    rw [hc] at hother
    cases hother
  refine ⟨by simp only [List.length_cons] at h1; omega, ?_⟩
  rw [skipValue]
  split
  · next h' => cases h.symm.trans h'
  · next h' => cases h.symm.trans h'
  · next h' =>
    cases h.symm.trans h'
    rw [if_neg (hne _ rfl), if_neg (hne _ rfl), if_neg (hne _ rfl), if_neg (hne _ rfl),
      if_neg (hne _ rfl), if_neg (hne _ rfl), if_neg (hne _ rfl), if_pos hc]
    simp only [ht]
    rfl

/-- A word is skipped letter by letter. -/
theorem word_append (letters : List Char) (rest : Source) :
    ∃ shorter, word letters (letters.map .char ++ rest) = .ok ⟨rest, shorter⟩ := by
  induction letters with
  | nil => exact ⟨Nat.le_refl _, rfl⟩
  | cons l letters ih =>
    obtain ⟨h1, ih⟩ := ih
    refine ⟨Nat.le_succ_of_le h1, ?_⟩
    show word (l :: letters) (.char l :: (letters.map .char ++ rest)) = _
    rw [word, if_pos rfl, ih]

/-- A word is known by its first letter. -/
theorem skipValue_word {letters : List Char}
    (h : skipBlanks s = .char c :: (letters.map .char ++ rest))
    (hc : (c, letters) = ('n', ['u', 'l', 'l']) ∨ (c, letters) = ('t', ['r', 'u', 'e']) ∨
      (c, letters) = ('f', ['a', 'l', 's', 'e'])) : Yields (skipValue s) () rest := by
  obtain ⟨h1, hword⟩ := word_append letters rest
  refine ⟨Nat.lt_of_le_of_lt h1 (length_lt_of_skipBlanks h), ?_⟩
  rcases hc with hc | hc | hc
  all_goals
    cases hc
    rw [skipValue]
    split
    · next h' => cases h.symm.trans h'
    · next h' => cases h.symm.trans h'
    · next h' =>
      cases h.symm.trans h'
      rfl

theorem skipList_closing (h : skipBlanks s = .char ']' :: t) : Yields (skipList s) () t := by
  refine ⟨length_lt_of_skipBlanks h, ?_⟩
  rw [skipList]
  split
  · next h' => cases h.symm.trans h'
  · next h' =>
    cases h.symm.trans h'
    exact if_pos rfl

/-- A list is skipped item by item. -/
theorem skipList_item (h : skipBlanks s = .char c :: t) (hc : c ≠ ']')
    (hitem : Yields (skipValue s) () u) (hothers : Yields (skipListRest u) () rest) :
    Yields (skipList s) () rest := by
  obtain ⟨h1, hitem⟩ := hitem
  obtain ⟨h2, hothers⟩ := hothers
  refine ⟨h2.trans h1, ?_⟩
  rw [skipList]
  split
  · next h' => cases h.symm.trans h'
  · next h' =>
    cases h.symm.trans h'
    rw [if_neg (by simpa using hc)]
    simp only [hitem, hothers]
    rfl

theorem skipListRest_closing (h : skipBlanks s = .char ']' :: t) :
    Yields (skipListRest s) () t := by
  refine ⟨length_lt_of_skipBlanks h, ?_⟩
  rw [skipListRest]
  split
  · next h' => cases h.symm.trans h'
  · next h' =>
    cases h.symm.trans h'
    exact if_pos rfl

theorem skipListRest_item (h : skipBlanks s = .char ',' :: t) (hitem : Yields (skipValue t) () u)
    (hothers : Yields (skipListRest u) () rest) : Yields (skipListRest s) () rest := by
  obtain ⟨h1, hitem⟩ := hitem
  obtain ⟨h2, hothers⟩ := hothers
  refine ⟨(h2.trans h1).trans (length_lt_of_skipBlanks h), ?_⟩
  rw [skipListRest]
  split
  · next h' => cases h.symm.trans h'
  · next h' =>
    cases h.symm.trans h'
    rw [if_neg (by decide), if_pos rfl]
    simp only [hitem, hothers]
    rfl

theorem skipRecord_closing (h : skipBlanks s = .char '\x7d' :: t) :
    Yields (skipRecord s) () t := by
  refine ⟨length_lt_of_skipBlanks h, ?_⟩
  rw [skipRecord]
  split
  · next h' => cases h.symm.trans h'
  · next h' =>
    cases h.symm.trans h'
    exact if_pos rfl

/-- A record is skipped member by member. -/
theorem skipRecord_members (h : skipBlanks s = .char '"' :: t)
    (hmembers : Yields (skipMembers s) () rest) : Yields (skipRecord s) () rest := by
  obtain ⟨h1, hmembers⟩ := hmembers
  refine ⟨h1, ?_⟩
  rw [skipRecord]
  split
  · next h' => cases h.symm.trans h'
  · next h' =>
    cases h.symm.trans h'
    rw [if_neg (by decide)]
    exact hmembers

theorem skipRecordRest_closing (h : skipBlanks s = .char '\x7d' :: t) :
    Yields (skipRecordRest s) () t := by
  refine ⟨length_lt_of_skipBlanks h, ?_⟩
  rw [skipRecordRest]
  split
  · next h' => cases h.symm.trans h'
  · next h' =>
    cases h.symm.trans h'
    exact if_pos rfl

theorem skipRecordRest_members (h : skipBlanks s = .char ',' :: t)
    (hmembers : Yields (skipMembers t) () rest) : Yields (skipRecordRest s) () rest := by
  obtain ⟨h1, hmembers⟩ := hmembers
  refine ⟨h1.trans (length_lt_of_skipBlanks h), ?_⟩
  rw [skipRecordRest]
  split
  · next h' => cases h.symm.trans h'
  · next h' =>
    cases h.symm.trans h'
    rw [if_neg (by decide), if_pos rfl]
    simp only [hmembers]
    rfl

/-- Of a member, the name is skipped, the colon and the value. -/
theorem skipMembers_member {v w : Source} (h : skipBlanks s = .char '"' :: t)
    (hname : Yields (skipText t) () u) (hcolon : skipBlanks u = .char ':' :: v)
    (hvalue : Yields (skipValue v) () w) (hothers : Yields (skipRecordRest w) () rest) :
    Yields (skipMembers s) () rest := by
  obtain ⟨h1, hname⟩ := hname
  obtain ⟨h2, hvalue⟩ := hvalue
  obtain ⟨h3, hothers⟩ := hothers
  have h4 := length_lt_of_skipBlanks h
  have h5 := length_lt_of_skipBlanks hcolon
  refine ⟨by omega, ?_⟩
  rw [skipMembers]
  split
  · next h' => cases h.symm.trans h'
  · next h' =>
    cases h.symm.trans h'
    rw [if_pos rfl]
    simp only [hname]
    split
    · next h' => cases hcolon.symm.trans h'
    · next h' =>
      cases hcolon.symm.trans h'
      rw [if_pos rfl]
      simp only [hvalue, hothers]
      rfl

end

/-- Blanks before a value are passed over. -/
theorem Derives.skipBlanks_append {t : Tree} {l blanks : List Char} (h : Derives (.value t) l)
    (hblanks : Blank blanks) (s : Source) :
    skipBlanks (blanks.map .char ++ (l.map .char ++ s)) = l.map .char ++ s := by
  obtain ⟨c, l, rfl, starts⟩ := h.exists_starts
  exact Json.skipBlanks_append hblanks starts.notSpace _

/-- Whatever follows, the part of a document is passed over. -/
def Skips : Phrase → List Char → Prop
  | .value _, l => ∀ s rest, Stops rest → skipBlanks s = l.map .char ++ rest →
      Yields (skipValue s) () rest
  | .items true _, l => ∀ rest, Yields (skipList (l.map .char ++ rest)) () rest
  | .items false _, l => ∀ rest, Yields (skipListRest (l.map .char ++ rest)) () rest
  | .members true _, l => ∀ rest, Yields (skipRecord (l.map .char ++ rest)) () rest
  | .members false _, l => ∀ rest, Yields (skipRecordRest (l.map .char ++ rest)) () rest

/-- A number is skipped. -/
theorem skips_number {l : List Char} (h : SpelledNumber l) : Skips (.value (.number l)) l := by
  intro s rest stops hs
  cases h with
  | number hsign hwhole hfraction hexponent =>
    have hnumeral := skipNumeral_spelled hwhole hfraction hexponent stops
    rcases hsign with rfl | rfl
    · cases hwhole with
      | zero => exact skipValue_digit hs rfl hnumeral
      | digits h => exact skipValue_digit hs (h.isDigit _ List.mem_cons_self) hnumeral
    · exact skipValue_behind hs (.inr (.inr (.inr ⟨rfl, hnumeral⟩)))

/-- What is written of an item, cut where it is read piece by piece. -/
theorem map_spelledItem (before after value others : List Char) (rest : Source) :
    (before ++ ',' :: after ++ (value ++ others)).map Piece.char ++ rest =
      before.map .char ++ .char ',' :: (after.map .char ++ (value.map .char ++
        (others.map .char ++ rest))) := by
  simp only [List.map_append, List.map_cons, List.append_assoc, List.cons_append]

/-- What is written of a member, cut where it is read piece by piece. -/
theorem map_derivedMember (separator name before after value others : List Char) (rest : Source) :
    (separator ++ '"' :: (name ++ '"' :: (before ++ ':' :: (after ++ (value ++ others))))).map
        Piece.char ++ rest =
      separator.map .char ++ .char '"' :: (name.map .char ++ .char '"' :: (before.map .char ++
        .char ':' :: (after.map .char ++ (value.map .char ++ (others.map .char ++ rest))))) := by
  simp only [List.map_append, List.map_cons, List.append_assoc, List.cons_append]

/-- An item is skipped together with what separates it from those before it. -/
theorem skips_item {first : Bool} {t : Tree} {ts : List Tree} {separator value others : List Char}
    (hseparator : Separates first separator) (hvalue : Derives (.value t) value)
    (hothers : Derives (.items false ts) others) (skipsValue : Skips (.value t) value)
    (skipsOthers : Skips (.items false ts) others) :
    Skips (.items first (t :: ts)) (separator ++ (value ++ others)) := by
  have stops := hothers.stops_items
  cases hseparator with
  | @first blanks hblanks =>
    intro rest
    have hskip := hvalue.skipBlanks_append hblanks (others.map .char ++ rest)
    have hitem := skipsValue _ _ (stops rest) hskip
    obtain ⟨c, l, rfl, starts⟩ := hvalue.exists_starts
    rw [List.map_append, List.append_assoc, List.map_append, List.append_assoc]
    exact skipList_item hskip starts.notClosing hitem (skipsOthers rest)
  | @next before after hbefore hafter =>
    intro rest
    have hitem := skipsValue _ _ (stops rest)
      (hvalue.skipBlanks_append hafter (others.map .char ++ rest))
    rw [map_spelledItem]
    exact skipListRest_item (skipBlanks_append hbefore rfl _) hitem (skipsOthers rest)

/-- A member is skipped however it is spelled, if its value and the other members are. -/
theorem skipMembers_spelled {name : List Char} {t : Tree} {ms : List (String × Tree)}
    {spelledName before after value others : List Char} (hname : SpelledText name spelledName)
    (hbefore : Blank before) (hafter : Blank after) (hvalue : Derives (.value t) value)
    (hothers : Derives (.members false ms) others) (skipsValue : Skips (.value t) value)
    (skipsOthers : Skips (.members false ms) others) {s rest : Source}
    (hs : skipBlanks s = .char '"' :: (spelledName.map .char ++ .char '"' ::
      (before.map .char ++ .char ':' :: (after.map .char ++ (value.map .char ++
        (others.map .char ++ rest)))))) : Yields (skipMembers s) () rest := by
  refine skipMembers_member hs (skipText_spelled hname _) (skipBlanks_append hbefore rfl _) ?_
    (skipsOthers rest)
  exact skipsValue _ _ (hothers.stops_members rest) (hvalue.skipBlanks_append hafter _)

/-- **Whatever derives from a tree is passed over**, in every position and at every depth. -/
theorem Derives.skips {phrase : Phrase} {l : List Char} (h : Derives phrase l) :
    Skips phrase l := by
  -- by induction on the derivation, with one case for each way to write something
  induction h with
  | nullWord => exact fun s rest _ hs => skipValue_word hs (.inl rfl)
  | trueWord => exact fun s rest _ hs => skipValue_word hs (.inr (.inl rfl))
  | falseWord => exact fun s rest _ hs => skipValue_word hs (.inr (.inr rfl))
  | number h => exact skips_number h
  | text h =>
    intro s rest _ hs
    rw [List.map_cons, List.map_append, List.cons_append, List.append_assoc] at hs
    exact skipValue_behind hs (.inl ⟨rfl, skipText_spelled h rest⟩)
  | list _ ih => exact fun s rest _ hs => skipValue_behind hs (.inr (.inl ⟨rfl, ih rest⟩))
  | record _ ih =>
    exact fun s rest _ hs => skipValue_behind hs (.inr (.inr (.inl ⟨rfl, ih rest⟩)))
  | @noItem first blanks hblanks =>
    have hskip : ∀ rest, skipBlanks ((blanks ++ [']']).map .char ++ rest) = .char ']' :: rest := by
      intro rest
      rw [List.map_append, List.append_assoc]
      exact Json.skipBlanks_append hblanks rfl rest
    cases first with
    | true => exact fun rest => skipList_closing (hskip rest)
    | false => exact fun rest => skipListRest_closing (hskip rest)
  | item hseparator hvalue hothers ihvalue ihothers =>
    exact skips_item hseparator hvalue hothers ihvalue ihothers
  | @noMember first blanks hblanks =>
    have hskip : ∀ rest, skipBlanks ((blanks ++ ['\x7d']).map .char ++ rest) =
        .char '\x7d' :: rest := by
      intro rest
      rw [List.map_append, List.append_assoc]
      exact Json.skipBlanks_append hblanks rfl rest
    cases first with
    | true => exact fun rest => skipRecord_closing (hskip rest)
    | false => exact fun rest => skipRecordRest_closing (hskip rest)
  | member hseparator hname hbefore hafter hvalue hothers ihvalue ihothers =>
    cases hseparator with
    | first hblanks =>
      intro rest
      have hskip := Json.skipBlanks_append hblanks (p := .char '"') rfl
      rw [map_derivedMember]
      exact skipRecord_members (hskip _) (skipMembers_spelled hname hbefore hafter hvalue hothers
        ihvalue ihothers (hskip _))
    | next hbefore' hafter' =>
      intro rest
      rw [map_derivedMember, List.map_append, List.append_assoc]
      exact skipRecordRest_members (Json.skipBlanks_append hbefore' rfl _)
        (skipMembers_spelled hname hbefore hafter hvalue hothers ihvalue ihothers
          (Json.skipBlanks_append hafter' rfl _))

/-- A value behind blanks is passed over, whatever it is. -/
theorem skipValue_derives {t : Tree} {l blanks : List Char} (h : Derives (.value t) l)
    (hblanks : Blank blanks) {rest : Source} (stops : Stops rest) :
    Yields (skipValue (blanks.map .char ++ (l.map .char ++ rest))) () rest :=
  h.skips _ _ stops (h.skipBlanks_append hblanks rest)

end ChainBroker.Json
