import ChainBroker.Proofs.Sorting
import ChainBroker.Proofs.Substitution
import ChainBroker.Proofs.Targets
import ChainBroker.Toml.Read
import Mathlib.Data.List.Nodup

/-!
# Documents of sections

A document may be made of nothing but sections: headers of one name, each with settings below it
that stand on lines of their own. A text of such a document may have placeholders in it, and blanks,
comments and blank lines wherever they are allowed (`Sections`). With the values of an environment
in it, it is read as the table of its sections (`Sections.document_eq`).

The grammar relates a text and what is left of it, both as they are before the values have been put
in. So each reader is taken to what becomes of the text:

1. Where no placeholder with a value starts, the text stays as it is (`Untouched`).
2. Comments and blanks are passed over (`Passes.trivia_eq`), up to the end of a line
   (`EndsLine.lineEnd_eq`).
3. A value that comes from the environment is read as it is (`Writes.value_takes`): it is in its
   place before anything is read, and nothing in it ends a text or starts an escape.
4. Names that are given once each are all there in the end (`value?_sections`).
-/

namespace ChainBroker

namespace Placeholder

variable {value : String → Option String} {l rest s : List Char} {c : Char}

/-- In front of the rest, the text stays as it is: no placeholder starts in it but those that end in
it and have no value. -/
inductive Untouched (value : String → Option String) (rest : List Char) : List Char → Prop where
  | nil : Untouched value rest []
  | other {c : Char} {s : List Char} (none : StartsNone (c :: (s ++ rest)))
    (behind : Untouched value rest s) : Untouched value rest (c :: s)
  | unset {name s : List Char} (isName : IsName name) (unset : value (String.ofList name) = none)
    (behind : Untouched value rest s) : Untouched value rest (written name ++ s)

/-- A placeholder starts with a dollar sign. -/
theorem startsNone_of_ne (h : c ≠ '$') : StartsNone (c :: s) := by
  intro name rest _ heq
  rw [written_append] at heq
  exact h (List.cons.inj heq).1

theorem substitute_nil : substitute value [] = [] := by rw [substitute]

/-- Other characters are passed over. -/
theorem substitute_cons (h : c ≠ '$') : substitute value (c :: s) = c :: substitute value s :=
  substitute_other (startsNone_of_ne h)

/-- Text that is untouched stays, whatever comes of the rest. -/
theorem Untouched.substitute_append (h : Untouched value rest l) :
    substitute value (l ++ rest) = l ++ substitute value rest := by
  induction h with
  | nil => rfl
  | other none _ ih => rw [List.cons_append, substitute_other none, ih, List.cons_append]
  | unset isName unset _ ih =>
    rw [List.append_assoc, substitute_placeholder isName, ih, List.append_assoc]
    simp [Piece.become, unset]

/-- Text without dollar signs is untouched. -/
theorem untouched_of_notMem (h : '$' ∉ l) : Untouched value rest l := by
  induction l with
  | nil => exact .nil
  | cons c l ih =>
    rw [List.mem_cons, not_or] at h
    exact .other (startsNone_of_ne (Ne.symm h.1)) (ih h.2)

theorem substitute_append (h : '$' ∉ l) (rest : List Char) :
    substitute value (l ++ rest) = l ++ substitute value rest :=
  (untouched_of_notMem h).substitute_append

end Placeholder

namespace Toml

open Placeholder

variable {env : String → Option String} {s t u rest : Source} {c : Char}

/-! ## Texts of sections -/

/-- A line breaks, or the text ends. -/
inductive Breaks : Source → Source → Prop where
  | final : Breaks [] []
  | lineFeed (rest : Source) : Breaks ('\n' :: rest) rest
  | carriageReturn (rest : Source) : Breaks ('\r' :: '\n' :: rest) rest

/-- A comment runs up to the end of its line. -/
inductive Comment (env : String → Option String) : Source → Source → Prop where
  | comment {l : List Char} {s rest : Source} (plain : ∀ c ∈ l, isPlain c = true)
    (untouched : Untouched env s l) (breaks : Breaks s rest) : Comment env ('#' :: (l ++ s)) rest

/-- What may stand between two lines. -/
inductive Passes (env : String → Option String) : Source → Source → Prop where
  | nil (rest : Source) : Passes env rest rest
  | blank {c : Char} {s rest : Source} (h : isBlank c = true) (others : Passes env s rest) :
    Passes env (c :: s) rest
  | lineFeed {s rest : Source} (others : Passes env s rest) : Passes env ('\n' :: s) rest
  | carriageReturn {s rest : Source} (others : Passes env s rest) :
    Passes env ('\r' :: '\n' :: s) rest
  | comment {s t rest : Source} (first : Comment env s t) (others : Passes env t rest) :
    Passes env s rest

/-- What may stand at the end of a line. -/
inductive EndsLine (env : String → Option String) : Source → Source → Prop where
  | breaks {s rest : Source} (h : Breaks s rest) : EndsLine env s rest
  | blank {c : Char} {s rest : Source} (h : isBlank c = true) (others : EndsLine env s rest) :
    EndsLine env (c :: s) rest
  | comment {s rest : Source} (h : Comment env s rest) : EndsLine env s rest

/-- A setting. -/
inductive Setting where
  | text (value : String)
  /-- A whole number. -/
  | number (value : Nat)

/-- The value of a setting. -/
def Setting.value : Setting → Toml
  | text value => .text value
  | number value => .integer value

/-- A number in digits, without zeros before others. -/
structure SpelledNatural (n : Nat) (word : List Char) : Prop where
  nonempty : word ≠ []
  isDigit : ∀ c ∈ word, c.isDigit = true
  noZero : word.head? = some '0' → word = ['0']
  value_eq : Nat.ofDigitChars 10 word 0 = n

/-- What stands for a setting. -/
inductive Writes (env : String → Option String) : Setting → Source → Source → Prop where
  /-- A text between marks, as it is. -/
  | literal {mark : Char} {value : String} {rest : Source} (hmark : mark = '"' ∨ mark = '\'')
    (plain : ∀ c ∈ value.toList, isPlain c = true ∧ c ≠ mark ∧ ¬(c = '\\' ∧ mark = '"'))
    (untouched : Untouched env (mark :: rest) value.toList) :
    Writes env (.text value) (mark :: (value.toList ++ mark :: rest)) rest
  /-- A placeholder between quotation marks, for a value without quotation marks, backslashes and
  control characters. -/
  | variable {name : List Char} {value : String} (rest : Source) (isName : IsName name)
    (set : env (String.ofList name) = some value)
    (plain : ∀ c ∈ value.toList, isPlain c = true ∧ c ≠ '"' ∧ c ≠ '\\') :
    Writes env (.text value) ('"' :: (written name ++ '"' :: rest)) rest
  /-- The digits of a number. -/
  | number {n : Nat} {word : List Char} (rest : Source) (h : SpelledNatural n word) :
    Writes env (.number n) (word ++ rest) rest

/-- A name that needs no marks. -/
structure IsBare (name : String) : Prop where
  nonempty : name.toList ≠ []
  chars : ∀ c ∈ name.toList, isBareChar c = true

instance (name : String) : Decidable (IsBare name) :=
  decidable_of_iff (name.toList ≠ [] ∧ name.toList.all isBareChar)
    ⟨fun ⟨h, chars⟩ => ⟨h, List.all_eq_true.mp chars⟩,
      fun h => ⟨h.nonempty, List.all_eq_true.mpr h.chars⟩⟩

/-- Nothing but blanks. -/
def Blanks (l : List Char) : Prop := ∀ c ∈ l, isBlank c = true

/-- A setting on its line. -/
inductive SettingLine (env : String → Option String) :
    String × Setting → Source → Source → Prop where
  | line {name : String} {setting : Setting} {before after : List Char} {s t rest : Source}
    (bare : IsBare name) (hbefore : Blanks before) (hafter : Blanks after)
    (writes : Writes env setting s t) (ends : EndsLine env t rest) :
    SettingLine env (name, setting) (name.toList ++ (before ++ '=' :: (after ++ s))) rest

/-- A setting with a blank on each side of its sign. -/
theorem SettingLine.spaced {env : String → Option String} {name : String} {setting : Setting}
    {s t rest : Source} (bare : IsBare name) (writes : Writes env setting s t)
    (ends : EndsLine env t rest) :
    SettingLine env (name, setting) (name.toList ++ ([' '] ++ '=' :: ([' '] ++ s))) rest := by
  have blank : Blanks [' '] := by simp [Blanks, isBlank]
  exact .line bare blank blank writes ends

/-- Settings, one below the other. -/
inductive SettingLines (env : String → Option String) :
    List (String × Setting) → Source → Source → Prop where
  | nil (rest : Source) : SettingLines env [] rest rest
  | cons {p : String × Setting} {ps : List (String × Setting)} {s t u rest : Source}
    (passes : Passes env s t) (line : SettingLine env p t u) (others : SettingLines env ps u rest) :
    SettingLines env (p :: ps) s rest

/-- A header on its line. -/
inductive HeaderLine (env : String → Option String) : String → Source → Source → Prop where
  | line {name : String} {before after : List Char} {s rest : Source} (bare : IsBare name)
    (hbefore : Blanks before) (hafter : Blanks after) (ends : EndsLine env s rest) :
    HeaderLine env name ('[' :: (before ++ (name.toList ++ (after ++ ']' :: s)))) rest

/-- A header without blanks. -/
theorem HeaderLine.tight {env : String → Option String} {name : String} {s rest : Source}
    (bare : IsBare name) (ends : EndsLine env s rest) :
    HeaderLine env name ('[' :: ([] ++ (name.toList ++ ([] ++ ']' :: s)))) rest := by
  have blank : Blanks [] := by simp [Blanks]
  exact .line bare blank blank ends

/-- Sections, one below the other. -/
inductive Sections (env : String → Option String) :
    List (String × List (String × Setting)) → Source → Prop where
  | nil {s : Source} (passes : Passes env s []) : Sections env [] s
  | cons {name : String} {ps : List (String × Setting)}
    {ss : List (String × List (String × Setting))} {s t u rest : Source} (passes : Passes env s t)
    (header : HeaderLine env name t u) (settings : SettingLines env ps u rest)
    (others : Sections env ss rest) : Sections env ((name, ps) :: ss) s

/-! ## Blanks, comments and ends of lines -/

/-- Something holds of the one character that does not hold of the other. -/
theorem ne_of_holds {p : Char → Bool} {d : Char} (hc : p c = true) (hd : p d = false) : c ≠ d := by
  rintro rfl
  exact Bool.false_ne_true (hd.symm.trans hc)

theorem ne_of_isPlain (h : isPlain c = true) : c ≠ '\n' ∧ c ≠ '\r' :=
  ⟨ne_of_holds h rfl, ne_of_holds h rfl⟩

theorem eq_of_isBlank (h : isBlank c = true) : c = ' ' ∨ c = '\t' := by
  simpa [isBlank] using h

/-- A line breaks where it broke before the substitution. -/
theorem Breaks.substitute (h : Breaks s rest) :
    Breaks (Placeholder.substitute env s) (Placeholder.substitute env rest) := by
  cases h with
  | final =>
    rw [substitute_nil]
    exact .final
  | lineFeed =>
    rw [substitute_cons (by decide)]
    exact .lineFeed _
  | carriageReturn =>
    rw [substitute_cons (by decide), substitute_cons (by decide)]
    exact .carriageReturn _

/-- Where a line breaks, it ends, also within a comment. -/
theorem Breaks.lineEnd_eq (h : Breaks s rest) (inComment : Bool) :
    lineEnd inComment s = some rest := by
  cases h <;> rfl

/-- Behind the break of a line no comment goes on. -/
theorem Breaks.trivia_eq (h : Breaks s rest) (inComment : Bool) :
    trivia inComment s = trivia false rest := by
  cases h <;> rfl

theorem lineEnd_comment {l : List Char} (plain : ∀ c ∈ l, isPlain c = true) (s : Source) :
    lineEnd true (l ++ s) = lineEnd true s := by
  induction l with
  | nil => rfl
  | cons c l ih =>
    have hc := plain c List.mem_cons_self
    rw [List.cons_append, lineEnd, if_pos rfl, if_pos hc]
    · exact ih fun c hc => plain c (List.mem_cons_of_mem _ hc)
    · exact (ne_of_isPlain hc).1
    · exact fun _ h => absurd h (ne_of_isPlain hc).2

/-- A comment is passed over. -/
theorem trivia_comment {l : List Char} (plain : ∀ c ∈ l, isPlain c = true) (s : Source) :
    trivia true (l ++ s) = trivia true s := by
  induction l with
  | nil => rfl
  | cons c l ih =>
    have hc := plain c List.mem_cons_self
    rw [List.cons_append, trivia, if_pos rfl, if_pos hc]
    · exact ih fun c hc => plain c (List.mem_cons_of_mem _ hc)
    · exact (ne_of_isPlain hc).1
    · exact fun _ h => absurd h (ne_of_isPlain hc).2

/-- Whatever comes of a comment in the substitution is one comment. -/
theorem Comment.substitute (h : Comment env s rest) :
    ∃ l t, (∀ c ∈ l, isPlain c = true) ∧ Breaks t (Placeholder.substitute env rest) ∧
      Placeholder.substitute env s = '#' :: (l ++ t) := by
  cases h with
  | @comment l s _ plain untouched breaks =>
    refine ⟨l, _, plain, breaks.substitute, ?_⟩
    rw [substitute_cons (by decide), untouched.substitute_append]

/-- The blank is passed over, at the end of a line and between lines. -/
theorem substitute_blank (h : isBlank c = true) (s : Source) :
    Placeholder.substitute env (c :: s) = c :: Placeholder.substitute env s := by
  rcases eq_of_isBlank h with rfl | rfl <;> exact substitute_cons (by decide)

/-- Up to the end of the line nothing is left to read. -/
theorem EndsLine.lineEnd_eq (h : EndsLine env s rest) :
    lineEnd false (substitute env s) = some (substitute env rest) := by
  induction h with
  | breaks h => exact h.substitute.lineEnd_eq false
  | blank h _ ih =>
    rw [substitute_blank h]
    rcases eq_of_isBlank h with rfl | rfl <;> exact ih
  | comment h =>
    obtain ⟨l, t, plain, breaks, heq⟩ := h.substitute
    rw [heq]
    exact (lineEnd_comment plain t).trans (breaks.lineEnd_eq true)

/-- What stands between two lines is passed over. -/
theorem Passes.trivia_eq (h : Passes env s rest) :
    trivia false (substitute env s) = trivia false (substitute env rest) := by
  induction h with
  | nil => rfl
  | blank h _ ih =>
    rw [substitute_blank h]
    rcases eq_of_isBlank h with rfl | rfl <;> exact ih
  | lineFeed _ ih =>
    rw [substitute_cons (by decide)]
    exact ih
  | carriageReturn _ ih =>
    rw [substitute_cons (by decide), substitute_cons (by decide)]
    exact ih
  | comment h _ ih =>
    obtain ⟨l, t, plain, breaks, heq⟩ := h.substitute
    rw [heq]
    exact (trivia_comment plain t).trans ((breaks.trivia_eq true).trans ih)

/-- Behind a value comes a blank, a comment, the end of the line or that of the text. -/
def Follows (s : Source) : Prop := ∀ c ∈ s.head?, isBlank c = true ∨ c = '#' ∨ c = '\n' ∨ c = '\r'

theorem Breaks.follows (h : Breaks s rest) : Follows s := by
  cases h <;> simp [Follows]

/-- The end of a line may stand behind a value. -/
theorem EndsLine.follows (h : EndsLine env s rest) : Follows (substitute env s) := by
  cases h with
  | breaks h => exact h.substitute.follows
  | blank h =>
    rw [substitute_blank h]
    simp [Follows, h]
  | comment h =>
    obtain ⟨l, t, -, -, heq⟩ := h.substitute
    rw [heq]
    simp [Follows]

/-! ## Texts -/

/-- The reading ends with a value and leaves the rest. -/
def Takes {α : Type} {bound : Nat} (reading : Option (Taken bound α)) (a : α) (rest : Source) :
    Prop :=
  ∃ shorter, reading = some ⟨a, rest, shorter⟩

/-- The characters stand for themselves between marks of this kind. -/
def PlainBetween (mark : Char) (l : List Char) : Prop :=
  ∀ c ∈ l, isPlain c = true ∧ c ≠ mark ∧ ¬(c = '\\' ∧ mark = '"')

/-- Plain characters are read up to the mark. -/
theorem shortText_plain {mark : Char} {l : List Char} (plain : PlainBetween mark l)
    (rest : Source) : Takes (shortText mark (l ++ mark :: rest)) l rest := by
  induction l with
  | nil =>
    rw [List.nil_append, shortText, if_pos rfl]
    exact ⟨_, rfl⟩
  | cons c l ih =>
    obtain ⟨hplain, hmark, hbackslash⟩ := plain c List.mem_cons_self
    obtain ⟨shorter, hread⟩ := ih fun c hc => plain c (List.mem_cons_of_mem _ hc)
    rw [List.cons_append, shortText, if_neg hmark, if_neg hbackslash, if_pos hplain, hread]
    exact ⟨_, rfl⟩

/-- An empty text is not taken for the opening of a longer one. -/
theorem take_two_ne {mark : Char} {l : List Char} (plain : PlainBetween mark l)
    (hrest : rest.head? ≠ some mark) : (l ++ mark :: rest).take 2 ≠ [mark, mark] := by
  cases l with
  | cons c l =>
    intro h
    exact (plain c List.mem_cons_self).2.1 (List.cons.inj h).1
  | nil =>
    cases rest with
    | nil => simp
    | cons c rest => simpa using hrest

/-- A text on one line is not taken for the start of one on several lines. -/
theorem anyText_plain {mark : Char} {l : List Char} (plain : PlainBetween mark l)
    (hrest : rest.head? ≠ some mark) :
    Takes (anyText mark (l ++ mark :: rest)) (String.ofList l) rest := by
  obtain ⟨shorter, hread⟩ := shortText_plain plain rest
  unfold anyText
  rw [if_neg (take_two_ne plain hrest), hread]
  exact ⟨_, rfl⟩

/-- What follows a value is no mark. -/
theorem Follows.head?_ne {mark : Char} (h : Follows rest) (hmark : mark = '"' ∨ mark = '\'') :
    rest.head? ≠ some mark := by
  intro heq
  have hfollows := h mark heq
  rcases hmark with rfl | rfl <;> simp [isBlank] at hfollows

/-- A text between marks is read as it stands. -/
theorem value_text {mark : Char} {l : List Char} (hmark : mark = '"' ∨ mark = '\'')
    (plain : PlainBetween mark l) (follows : Follows rest) (depth : Nat) :
    Takes (value depth (mark :: (l ++ mark :: rest))) (.text (String.ofList l)) rest := by
  obtain ⟨shorter, hread⟩ := anyText_plain plain (follows.head?_ne hmark)
  rw [value, if_pos hmark, hread]
  exact ⟨_, rfl⟩

/-! ## Numbers -/

section

variable {word : List Char} {n : Nat}

/-- Something that is no digit does not stand behind digits. -/
theorem after_digits {d : Char} (hd : d.isDigit = false) (h : ∀ c ∈ word, c.isDigit = true) :
    after d word = none := by
  cases word with
  | nil => rfl
  | cons c word => exact if_neg (ne_of_holds (h c List.mem_cons_self) hd)

theorem fixedDigits_suffix {count start : Nat} {rest : List Char}
    (h : fixedDigits count start word = some (n, rest)) : rest <:+ word := by
  induction count generalizing start word with
  | zero =>
    cases h
    exact List.suffix_rfl
  | succ count ih =>
    cases word with
    | nil => cases h
    | cons c word =>
      rw [fixedDigits] at h
      split at h
      · exact (ih h).trans (List.suffix_cons c word)
      · cases h

theorem date?_digits (h : ∀ c ∈ word, c.isDigit = true) : date? word = none := by
  unfold date?
  cases hyear : fixedDigits 4 0 word with
  | none => rfl
  | some found =>
    have hrest : ∀ c ∈ found.2, c.isDigit = true :=
      fun c hc => h c ((fixedDigits_suffix hyear).subset hc)
    simp [after_digits (d := '-') rfl hrest]

theorem minutes?_digits (h : ∀ c ∈ word, c.isDigit = true) : minutes? word = none := by
  unfold minutes?
  cases hhour : fixedDigits 2 0 word with
  | none => rfl
  | some found =>
    have hrest : ∀ c ∈ found.2, c.isDigit = true :=
      fun c hc => h c ((fixedDigits_suffix hhour).subset hc)
    simp [after_digits (d := ':') rfl hrest]

/-- Digits alone are neither a date nor a time. -/
theorem isMoment_digits (h : ∀ c ∈ word, c.isDigit = true) : isMoment word = false := by
  unfold isMoment time?
  rw [date?_digits h, minutes?_digits h]
  rfl

theorem hexValue?_digit {c : Char} (h : c.isDigit = true) :
    Text.hexValue? c = some (c.toNat - '0'.toNat) := by
  have hrange : '0' ≤ c ∧ c ≤ '9' := by
    rw [Char.le_def, Char.le_def]
    simpa [Char.isDigit] using h
  unfold Text.hexValue?
  simp [hrange.1, hrange.2]

/-- Digits are read as the number that they denote. -/
theorem valueOf_digits (h : ∀ c ∈ word, c.isDigit = true) :
    valueOf 10 word = Nat.ofDigitChars 10 word 0 := by
  refine List.foldl_ext _ _ _ fun n c hc => ?_
  rw [hexValue?_digit (h c hc), Option.getD_some, Nat.mul_comm]

/-- A number without zeros in front of it is taken whole. -/
theorem SpelledNatural.wholeDigits?_eq (h : SpelledNatural n word) :
    wholeDigits? word = some word := by
  have hunderscore : '_' ∉ word := fun hmem => absurd (h.isDigit _ hmem) (by decide)
  have hdigits : digits? Char.isDigit word = some word := by
    unfold digits?
    simpa [Text.splitAt_of_not_mem hunderscore, h.nonempty] using h.isDigit
  unfold wholeDigits?
  rw [hdigits]
  split
  · next heq =>
    cases heq
    cases h.noZero rfl
  · rfl

/-- Digits are read as their number, and not as a word, a sign or a date. -/
theorem SpelledNatural.scalar?_eq (h : SpelledNatural n word) :
    scalar? word = some (.integer n) := by
  obtain ⟨c, cs, rfl⟩ := List.exists_cons_of_ne_nil h.nonempty
  have hc := h.isDigit c List.mem_cons_self
  have hhead : ∀ d l, d.isDigit = false → c :: cs ≠ d :: l :=
    fun d l hd heq => ne_of_holds hc hd (List.cons.inj heq).1
  have hbased : based? (c :: cs) = none := by
    unfold based?
    split
    case h_4 => rfl
    all_goals
      next heq =>
      cases heq
      exact absurd (h.isDigit _ (List.mem_cons_of_mem _ List.mem_cons_self)) (by decide)
  have hsigned : signed (c :: cs) = (false, c :: cs) := by
    unfold signed
    split
    · next heq => exact absurd heq (hhead _ _ rfl)
    · next heq => exact absurd heq (hhead _ _ rfl)
    · rfl
  unfold scalar? number?
  rw [if_neg (hhead _ _ rfl), if_neg (hhead _ _ rfl), isMoment_digits h.isDigit, hbased, hsigned]
  simp only [hhead 'i' _ rfl, hhead 'n' _ rfl, h.wholeDigits?_eq, if_false, Bool.false_eq_true,
    valueOf_digits h.isDigit, h.value_eq]

theorem isWordChar_of_isDigit {c : Char} (h : c.isDigit = true) : isWordChar c = true := by
  simp [isWordChar, Char.isAlphanum, h]

/-- What follows a value does not continue a word. -/
theorem Follows.not_isWordChar (h : Follows rest) : ∀ c ∈ rest.head?, isWordChar c = false := by
  intro c hc
  rcases h c hc with hblank | rfl | rfl | rfl
  · rcases eq_of_isBlank hblank with rfl | rfl <;> rfl
  all_goals rfl

theorem takeWord_digits (h : ∀ c ∈ word, c.isDigit = true) (follows : Follows rest) :
    takeWord (word ++ rest) = word := by
  have hword : ∀ c ∈ word, isWordChar c = true := fun c hc => isWordChar_of_isDigit (h c hc)
  have htake : rest.takeWhile isWordChar = [] := by
    cases rest with
    | nil => rfl
    | cons c rest =>
      exact List.takeWhile_cons_of_neg (by simpa using follows.not_isWordChar c rfl)
  unfold takeWord
  simp only [List.takeWhile_append_of_pos hword, htake, List.append_nil]
  split
  · -- only a date may go on behind a blank
    rw [if_neg]
    rw [date?_digits h]
    simp
  · rfl

/-- A number is read as it stands. -/
theorem value_number (h : SpelledNatural n word) (follows : Follows rest) (depth : Nat) :
    Takes (value depth (word ++ rest)) (.integer n) rest := by
  have hread : Takes (scalar (word ++ rest)) (.integer n) rest := by
    unfold scalar
    simp only [takeWord_digits h.isDigit follows, h.scalar?_eq]
    have hlength : 0 < word.length ∧ word.length ≤ (word ++ rest).length :=
      ⟨List.length_pos_of_ne_nil h.nonempty, by simp⟩
    simp only [hlength, and_self, dite_true, List.drop_left]
    exact ⟨_, rfl⟩
  obtain ⟨c, cs, rfl⟩ := List.exists_cons_of_ne_nil h.nonempty
  have hhead : ∀ d, d.isDigit = false → c ≠ d :=
    fun d => ne_of_holds (h.isDigit c List.mem_cons_self)
  rw [List.cons_append, value, if_neg (by simp [hhead]), if_neg (hhead _ rfl),
    if_neg (hhead _ rfl)]
  exact hread

end

/-! ## Values -/

/-- What stands for a setting does not start with a blank. -/
theorem Writes.exists_substitute {setting : Setting} (h : Writes env setting s t) :
    ∃ c l, substitute env s = c :: l ∧ isBlank c = false := by
  cases h with
  | literal hmark =>
    rcases hmark with rfl | rfl
    all_goals
      rw [substitute_cons (by decide)]
      exact ⟨_, _, rfl, rfl⟩
  | «variable» =>
    rw [substitute_cons (by decide)]
    exact ⟨_, _, rfl, rfl⟩
  | @number n word _ h =>
    obtain ⟨c, cs, rfl⟩ := List.exists_cons_of_ne_nil h.nonempty
    have hne : ∀ d, d.isDigit = false → c ≠ d :=
      fun d => ne_of_holds (h.isDigit c List.mem_cons_self)
    rw [List.cons_append, substitute_cons (hne _ rfl)]
    exact ⟨_, _, rfl, by simp [isBlank, hne]⟩

/-- What stands for a setting is read as its value, wherever this comes from. -/
theorem Writes.value_takes {setting : Setting} (h : Writes env setting s t)
    (follows : Follows (substitute env t)) (depth : Nat) :
    Takes (value depth (substitute env s)) setting.value (substitute env t) := by
  cases h with
  | @literal mark value _ hmark plain untouched =>
    have hdollar : mark ≠ '$' := by rcases hmark with rfl | rfl <;> decide
    rw [substitute_cons hdollar, untouched.substitute_append, substitute_cons hdollar]
    have hread := value_text hmark plain follows depth
    rw [String.ofList_toList] at hread
    exact hread
  | @«variable» name value _ isName set plain =>
    have hplain : PlainBetween '"' value.toList := fun c hc =>
      ⟨(plain c hc).1, (plain c hc).2.1, fun h => (plain c hc).2.2 h.1⟩
    -- the value is in its place before anything is read, and nothing of it is left to put in
    have hbecome : (Piece.placeholder name).become env = value.toList := by
      simp [Piece.become, set]
    rw [substitute_cons (by decide), substitute_placeholder isName, hbecome,
      substitute_cons (by decide)]
    have hread := value_text (.inl rfl) hplain follows depth
    rw [String.ofList_toList] at hread
    exact hread
  | @number n word _ h =>
    have hdollar : '$' ∉ word := fun hmem => absurd (h.isDigit _ hmem) (by decide)
    rw [substitute_append hdollar]
    exact value_number h follows depth

/-! ## Keys -/

section

variable {name : String} {before after : List Char}

theorem skipBlanks_append (h : Blanks before) (hc : isBlank c = false) (s : Source) :
    skipBlanks (before ++ c :: s) = c :: s := by
  unfold skipBlanks
  rw [List.dropWhile_append_of_pos h, List.dropWhile_cons_of_neg (by simp [hc])]

theorem isBareChar_of_isBlank (h : isBlank c = true) : isBareChar c = false := by
  rcases eq_of_isBlank h with rfl | rfl <;> rfl

theorem not_isBareChar_blanks (h : Blanks after) (hc : isBareChar c = false) (s : Source) :
    ∀ d ∈ (after ++ c :: s).head?, isBareChar d = false := by
  cases after with
  | nil => simpa using hc
  | cons d after => simpa using isBareChar_of_isBlank (h d List.mem_cons_self)

/-- A name starts with a character that starts nothing else. -/
theorem IsBare.exists_cons (bare : IsBare name) :
    ∃ c l, name.toList = c :: l ∧ isBlank c = false ∧ ∀ d, isBareChar d = false → c ≠ d := by
  obtain ⟨c, l, hname⟩ := List.exists_cons_of_ne_nil bare.nonempty
  have hne : ∀ d, isBareChar d = false → c ≠ d :=
    fun d => ne_of_holds (bare.chars c (hname ▸ List.mem_cons_self))
  exact ⟨c, l, hname, by simp [isBlank, hne ' ' rfl, hne '\t' rfl], hne⟩

/-- A name that needs no marks is read up to the character that may not be in it. -/
theorem name_bare (bare : IsBare name) (hrest : ∀ c ∈ rest.head?, isBareChar c = false) :
    Takes (Toml.name (name.toList ++ rest)) name rest := by
  have hstop : rest.takeWhile isBareChar = [] ∧ rest.dropWhile isBareChar = rest := by
    cases rest with
    | nil => exact ⟨rfl, rfl⟩
    | cons c rest =>
      have hc : ¬isBareChar c = true := by simpa using hrest c rfl
      exact ⟨List.takeWhile_cons_of_neg hc, List.dropWhile_cons_of_neg hc⟩
  obtain ⟨c, cs, hname⟩ := List.exists_cons_of_ne_nil bare.nonempty
  have hbare := bare.chars
  rw [hname] at hbare ⊢
  have hc := hbare c List.mem_cons_self
  have hcs : ∀ c ∈ cs, isBareChar c = true := fun c hc => hbare c (List.mem_cons_of_mem _ hc)
  have hmark : ¬(c = '"' ∨ c = '\'') := by
    rintro (rfl | rfl) <;> cases hc
  have heq : String.ofList (c :: cs) = name := by rw [← hname, String.ofList_toList]
  unfold Toml.name
  simp only [List.cons_append, if_neg hmark, if_pos hc, List.takeWhile_append_of_pos hcs,
    List.dropWhile_append_of_pos hcs, hstop.1, hstop.2, List.append_nil, heq]
  exact ⟨_, rfl⟩

/-- A key of one name ends where no dot follows. -/
theorem key_bare (bare : IsBare name) (hafter : Blanks after) (hblank : isBlank c = false)
    (hbare : isBareChar c = false) (hdot : c ≠ '.') (s : Source) :
    Takes (key (name.toList ++ (after ++ c :: s))) [name] (c :: s) := by
  obtain ⟨shorter, hname⟩ := name_bare bare (not_isBareChar_blanks hafter hbare s)
  have hend : dot (c :: s) = none := by
    rw [dot]
    rintro _ ⟨⟩
    exact hdot rfl
  have hpadded : Takes (paddedName (name.toList ++ (after ++ c :: s))) name (c :: s) := by
    unfold paddedName
    rw [hname]
    simp only [Option.map_some, skipBlanks_append hafter hblank]
    exact ⟨_, rfl⟩
  obtain ⟨shorter, hpadded⟩ := hpadded
  rw [key]
  simp only [hpadded, hend]
  exact ⟨_, rfl⟩

/-- The name of a setting is read up to the sign behind it. -/
theorem assigned_bare (bare : IsBare name) (hbefore : Blanks before) (s : Source) :
    Takes (assigned (name.toList ++ (before ++ '=' :: s))) [name] (skipBlanks s) := by
  obtain ⟨shorter, hkey⟩ := key_bare bare hbefore (c := '=') rfl rfl (by decide) s
  unfold assigned
  simp only [hkey]
  exact ⟨_, rfl⟩

/-- A name comes first, or a blank does: no bracket. -/
theorem exists_cons_bare (hbefore : Blanks before) (bare : IsBare name) (s : Source) :
    ∃ c l, before ++ (name.toList ++ s) = c :: l ∧ c ≠ '[' := by
  cases before with
  | cons c before =>
    exact ⟨c, _, rfl, ne_of_holds (hbefore c List.mem_cons_self) rfl⟩
  | nil =>
    obtain ⟨c, cs, hname, -, hne⟩ := bare.exists_cons
    exact ⟨c, cs ++ s, by rw [hname]; rfl, hne _ rfl⟩

/-- The name of a section is read up to the bracket behind it. -/
theorem header_bare (bare : IsBare name) (hbefore : Blanks before) (hafter : Blanks after)
    (s : Source) :
    Takes (header (before ++ (name.toList ++ (after ++ ']' :: s)))) (.table [name]) s := by
  obtain ⟨c, l, heq, hbracket⟩ := exists_cons_bare hbefore bare (after ++ ']' :: s)
  obtain ⟨d, ds, hname, hd, -⟩ := bare.exists_cons
  have hskip : skipBlanks (before ++ (name.toList ++ (after ++ ']' :: s))) =
      name.toList ++ (after ++ ']' :: s) := by
    rw [hname]
    exact skipBlanks_append hbefore hd _
  have hkey : Takes (key (skipBlanks (before ++ (name.toList ++ (after ++ ']' :: s))))) [name]
      (']' :: s) := by
    rw [hskip]
    exact key_bare bare hafter rfl rfl (by decide) s
  rw [heq] at hkey ⊢
  obtain ⟨shorter, hkey⟩ := hkey
  rw [header]
  · simp only [hkey]
    exact ⟨_, rfl⟩
  · rintro _ ⟨⟩
    exact hbracket rfl

/-! ## Lines -/

/-- A header is read as one, -/
theorem lineContent_header (bare : IsBare name) (hbefore : Blanks before) (hafter : Blanks after)
    (s : Source) :
    Takes (lineContent ('[' :: (before ++ (name.toList ++ (after ++ ']' :: s)))))
      (.header (.table [name])) s := by
  obtain ⟨shorter, hheader⟩ := header_bare bare hbefore hafter s
  rw [lineContent]
  simp only [hheader]
  exact ⟨_, rfl⟩

/-- and a setting as a pair. -/
theorem lineContent_pair (bare : IsBare name) (hbefore : Blanks before) {v : Toml}
    (hvalue : Takes (value maxDepth (skipBlanks s)) v rest) :
    Takes (lineContent (name.toList ++ (before ++ '=' :: s))) (.pair ⟨[name], v⟩) rest := by
  have hempty : Blanks [] := nofun
  obtain ⟨c, l, heq, hbracket⟩ := exists_cons_bare hempty bare (before ++ '=' :: s)
  rw [List.nil_append] at heq
  have hassigned := assigned_bare bare hbefore s
  rw [heq] at hassigned ⊢
  obtain ⟨h1, hassigned⟩ := hassigned
  obtain ⟨h2, hvalue⟩ := hvalue
  rw [lineContent]
  · simp only [hassigned, hvalue]
    exact ⟨_, rfl⟩
  · rintro _ ⟨⟩
    exact hbracket rfl

/-- Where nothing is left but what is passed over, there are no more lines. -/
theorem lines_of_trivia_nil (h : trivia false s = some []) : lines s = some [] := by
  rw [lines]
  split
  · next heq => cases h.symm.trans heq
  · rfl
  · next hne heq => exact absurd (Option.some.inj (heq.symm.trans h)) hne

/-- A line stands in front of the others. -/
theorem lines_of_trivia {start next : Source} {content : Line} (h : trivia false s = some start)
    (hcontent : Takes (lineContent start) content rest) (hend : lineEnd false rest = some next) :
    lines s = (lines next).map (content :: ·) := by
  obtain ⟨shorter, hcontent⟩ := hcontent
  rw [lines]
  split
  · next heq => cases h.symm.trans heq
  · next heq =>
    cases h.symm.trans heq
    cases shorter
  · next heq =>
    cases h.symm.trans heq
    simp only [hcontent]
    split
    · next heq => cases hend.symm.trans heq
    · next heq =>
      cases hend.symm.trans heq
      cases lines next <;> rfl

end

/-- What is passed over ends where a line starts with another character. -/
theorem Passes.trivia_eq_cons (h : Passes env s t) {l : List Char}
    (heq : substitute env t = c :: l) (hblank : isBlank c = false)
    (hc : c ≠ '#' ∧ c ≠ '\n' ∧ c ≠ '\r') : trivia false (substitute env s) = some (c :: l) := by
  rw [h.trivia_eq, heq, trivia]
  · simp [hblank, hc.1]
  · exact hc.2.1
  · exact fun _ h => absurd h hc.2.2

theorem Blanks.dollar_notMem {l : List Char} (h : Blanks l) : '$' ∉ l :=
  fun hmem => absurd (h _ hmem) (by decide)

theorem IsBare.dollar_notMem {name : String} (h : IsBare name) : '$' ∉ name.toList :=
  fun hmem => absurd (h.chars _ hmem) (by decide)

/-- The pair of a setting. -/
def pairOf (p : String × Setting) : Pair := ⟨[p.1], p.2.value⟩

/-- The line of a setting. -/
def pairLine (p : String × Setting) : Line := .pair (pairOf p)

/-- The lines of a section. -/
def sectionLines (p : String × List (String × Setting)) : List Line :=
  .header (.table [p.1]) :: p.2.map pairLine

/-- A setting on its line gives one pair. -/
theorem SettingLine.lines_eq {p : String × Setting} (line : SettingLine env p t u)
    (passes : Passes env s t) :
    lines (substitute env s) = (lines (substitute env u)).map (pairLine p :: ·) := by
  cases line with
  | @line name setting before after s' t' _ bare hbefore hafter writes ends =>
    have hline : substitute env (name.toList ++ (before ++ '=' :: (after ++ s'))) =
        name.toList ++ (before ++ '=' :: (after ++ substitute env s')) := by
      rw [substitute_append bare.dollar_notMem, substitute_append hbefore.dollar_notMem,
        substitute_cons (by decide), substitute_append hafter.dollar_notMem]
    have hvalue : Takes (value maxDepth (skipBlanks (after ++ substitute env s'))) setting.value
        (substitute env t') := by
      obtain ⟨c, l, heq, hc⟩ := writes.exists_substitute
      have hskip := skipBlanks_append hafter hc l
      rw [← heq] at hskip
      rw [hskip]
      exact writes.value_takes ends.follows maxDepth
    obtain ⟨c, l, hname, hblank, hne⟩ := bare.exists_cons
    have htrivia := passes.trivia_eq_cons (hline.trans (by rw [hname]; rfl)) hblank
      ⟨hne _ rfl, hne _ rfl, hne _ rfl⟩
    refine lines_of_trivia htrivia ?_ ends.lineEnd_eq
    have hcontent := lineContent_pair bare hbefore hvalue
    rw [hname] at hcontent
    exact hcontent

/-- A header is read up to the end of its line. -/
theorem HeaderLine.reads {name : String} (line : HeaderLine env name t u)
    (passes : Passes env s t) :
    ∃ l rest, trivia false (substitute env s) = some ('[' :: l) ∧
      Takes (lineContent ('[' :: l)) (.header (.table [name])) rest ∧
      lineEnd false rest = some (substitute env u) := by
  cases line with
  | @line before after s' _ bare hbefore hafter ends =>
    have hline : substitute env ('[' :: (before ++ (name.toList ++ (after ++ ']' :: s')))) =
        '[' :: (before ++ (name.toList ++ (after ++ ']' :: substitute env s'))) := by
      rw [substitute_cons (by decide), substitute_append hbefore.dollar_notMem,
        substitute_append bare.dollar_notMem, substitute_append hafter.dollar_notMem,
        substitute_cons (by decide)]
    exact ⟨_, _, passes.trivia_eq_cons hline rfl (by decide),
      lineContent_header bare hbefore hafter _, ends.lineEnd_eq⟩

/-- Settings one below the other give their pairs. -/
theorem SettingLines.lines_eq {ps : List (String × Setting)} (h : SettingLines env ps s rest) :
    lines (substitute env s) = (lines (substitute env rest)).map (ps.map pairLine ++ ·) := by
  induction h with
  | nil => simp
  | cons passes line _ ih =>
    rw [line.lines_eq passes, ih, Option.map_map]
    rfl

/-- The lines of a document of sections. -/
theorem Sections.lines_eq {ss : List (String × List (String × Setting))} (h : Sections env ss s) :
    lines (substitute env s) = some (ss.flatMap sectionLines) := by
  induction h with
  | nil passes =>
    refine lines_of_trivia_nil (passes.trivia_eq.trans ?_)
    rw [substitute_nil]
    rfl
  | cons passes header settings _ ih =>
    obtain ⟨l, rest, htrivia, hcontent, hend⟩ := header.reads passes
    rw [lines_of_trivia htrivia hcontent hend, settings.lines_eq, ih]
    rfl

/-! ## Tables -/

/-- A header with the pairs of its settings. -/
def sectionOf (p : String × List (String × Setting)) : Section :=
  ⟨.table [p.1], p.2.map pairOf⟩

/-- Pairs belong to the header above them. -/
theorem ofLines_pairs (ps : List (String × Setting)) (ls : List Line) :
    Document.ofLines (ps.map pairLine ++ ls) =
      ⟨ps.map pairOf ++ (Document.ofLines ls).top, (Document.ofLines ls).sections⟩ := by
  induction ps with
  | nil => rfl
  | cons p ps ih =>
    rw [List.map_cons, List.cons_append, pairLine, Document.ofLines, ih]
    rfl

/-- So the lines of sections make the sections. -/
theorem ofLines_sections (ss : List (String × List (String × Setting))) :
    Document.ofLines (ss.flatMap sectionLines) = ⟨[], ss.map sectionOf⟩ := by
  induction ss with
  | nil => rfl
  | cons p ss ih =>
    rw [List.flatMap_cons, sectionLines, List.cons_append, Document.ofLines, ofLines_pairs, ih]
    simp [sectionOf]

section

variable {name : String} {draft : Draft} {members : Members}

/-- A new name is put behind the others. -/
theorem put_of_notMem (h : name ∉ members.map Prod.fst) :
    put name draft members = members ++ [(name, draft)] := by
  induction members with
  | nil => rfl
  | cons m members ih =>
    rw [List.map_cons, List.mem_cons, not_or] at h
    rw [put, if_neg (Ne.symm h.1), ih h.2, List.cons_append]

theorem lookup_of_notMem (h : name ∉ members.map Prod.fst) : members.lookup name = none := by
  rw [List.lookup_eq_none_iff]
  intro m hm
  rw [bne_iff_ne]
  rintro rfl
  exact h (List.mem_map_of_mem hm)

/-- What is put under names that are not there yet comes behind what is there. -/
theorem foldlM_put {β : Type} {step : Members → β → Option Members} (made : β → String × Draft)
    {bs : List β} (hstep : ∀ members, ∀ b ∈ bs, (made b).1 ∉ members.map Prod.fst →
      step members b = some (put (made b).1 (made b).2 members))
    (distinct : (members.map Prod.fst ++ bs.map fun b => (made b).1).Nodup) :
    bs.foldlM step members = some (members ++ bs.map made) := by
  induction bs generalizing members with
  | nil => simp
  | cons b bs ih =>
    have hnew : (made b).1 ∉ members.map Prod.fst := fun hmem =>
      (List.nodup_append.mp distinct).2.2 _ hmem _ List.mem_cons_self rfl
    rw [List.foldlM_cons, hstep members b List.mem_cons_self hnew, put_of_notMem hnew]
    -- its name goes over from those to come to those that are there
    have hrest : ((members ++ [made b]).map Prod.fst ++ bs.map fun b => (made b).1).Nodup := by
      rw [List.map_append, List.append_assoc]
      exact distinct
    have hothers := ih (fun members b hb => hstep members b (List.mem_cons_of_mem _ hb)) hrest
    exact hothers.trans (by rw [List.append_assoc]; rfl)

/-- The table of settings. -/
def settingsTable (ps : List (String × Setting)) : Toml :=
  ofMembers (ps.map fun p => (p.1, p.2.value))

/-- The table of sections. -/
def sectionsTable (ss : List (String × List (String × Setting))) : Toml :=
  ofMembers (ss.map fun p => (p.1, settingsTable p.2))

/-- No name is given twice. -/
structure Distinct (ss : List (String × List (String × Setting))) : Prop where
  sections : (ss.map Prod.fst).Nodup
  settings : ∀ p ∈ ss, (p.2.map Prod.fst).Nodup

/-- What settings give. -/
def settingMembers (ps : List (String × Setting)) : Members :=
  ps.map fun p => (p.1, .closed p.2.value)

/-- Settings of distinct names are put one behind the other. -/
theorem insertAll_pairs {ps : List (String × Setting)} (distinct : (ps.map Prod.fst).Nodup) :
    insertAll (ps.map pairOf) [] = some (settingMembers ps) := by
  have hnames : (([] : Members).map Prod.fst ++ ps.map Prod.fst).Nodup := distinct
  unfold insertAll
  rw [List.foldlM_map]
  refine foldlM_put (fun p : String × Setting => (p.1, Draft.closed p.2.value))
    (fun members p _ hnew => ?_) hnames
  rw [pairOf, insert, lookup_of_notMem hnew]

/-- A section of a new name is put under it. -/
theorem addSection_of_notMem {p : String × List (String × Setting)}
    (distinct : (p.2.map Prod.fst).Nodup) (hnew : p.1 ∉ members.map Prod.fst) :
    addSection members (sectionOf p) =
      some (put p.1 (.table .headed (settingMembers p.2)) members) := by
  show alter (sectionOf p).change [p.1] members = _
  rw [alter, lookup_of_notMem hnew]
  show ((insertAll (p.2.map pairOf) []).map _).map _ = _
  rw [insertAll_pairs distinct]
  rfl

theorem closeMembers_map {β : Type} (made : β → String × Draft) (l : List β) :
    closeMembers (l.map made) = l.map fun b => ((made b).1, (made b).2.close) := by
  induction l with
  | nil => rfl
  | cons b l ih => rw [List.map_cons, List.map_cons, closeMembers, ih]

/-- From the settings of a section comes their table. -/
theorem close_settingMembers (origin : Origin) (ps : List (String × Setting)) :
    (Draft.table origin (settingMembers ps)).close = settingsTable ps := by
  rw [Draft.close, settingMembers, closeMembers_map]
  simp only [Draft.close]
  rfl

/-- A document in which no name is given twice has all that it gives. -/
theorem value?_sections {ss : List (String × List (String × Setting))} (distinct : Distinct ss) :
    (Document.ofLines (ss.flatMap sectionLines)).value? = some (sectionsTable ss) := by
  have hsections : (ss.map sectionOf).foldlM addSection [] =
      some (ss.map fun p => (p.1, .table .headed (settingMembers p.2))) := by
    rw [List.foldlM_map]
    have hnames : (([] : Members).map Prod.fst ++ ss.map Prod.fst).Nodup := distinct.sections
    exact foldlM_put (fun p => (p.1, Draft.table .headed (settingMembers p.2)))
      (fun members p hp hnew => addSection_of_notMem (distinct.settings p hp) hnew) hnames
  rw [ofLines_sections]
  show ((ss.map sectionOf).foldlM addSection []).bind _ = _
  rw [hsections, Option.bind_some, closeMembers_map]
  simp only [close_settingMembers]
  rfl

end

/-! ## Documents -/

/-- A table does not tell in what order its members were given. -/
theorem ofMembers_eq_of_perm {l l' : List (String × Toml)} (h : l.Perm l')
    (distinct : (l.map Prod.fst).Nodup) : ofMembers l = ofMembers l' :=
  congrArg Toml.table (mergeSort_eq_of_perm Prod.fst h fun _ ha _ hb heq =>
    List.inj_on_of_nodup_map distinct ha hb heq)

/-- The same sections in any order, each with its settings in any order. -/
def Reordered (ss ss' : List (String × List (String × Setting))) : Prop :=
  ∃ sorted, ss.Perm sorted ∧ List.Forall₂ (fun p q => p.1 = q.1 ∧ p.2.Perm q.2) sorted ss'

section

variable {ss ss' : List (String × List (String × Setting))}

/-- Names are distinct in every order. -/
theorem Distinct.perm (distinct : Distinct ss) (h : ss.Perm ss') : Distinct ss' where
  sections := (h.map Prod.fst).nodup_iff.mp distinct.sections
  settings p hp := distinct.settings p (h.mem_iff.mpr hp)

/-- Sections whose settings are given in another order have the same tables. -/
theorem map_settingsTable (h : List.Forall₂ (fun p q => p.1 = q.1 ∧ p.2.Perm q.2) ss ss')
    (distinct : ∀ p ∈ ss, (p.2.map Prod.fst).Nodup) :
    ss'.map Prod.fst = ss.map Prod.fst ∧ (∀ p ∈ ss', (p.2.map Prod.fst).Nodup) ∧
      ss'.map (fun p => (p.1, settingsTable p.2)) = ss.map fun p => (p.1, settingsTable p.2) := by
  induction h with
  | nil => exact ⟨rfl, nofun, rfl⟩
  | @cons p q ss ss' hpq _ ih =>
    obtain ⟨hname, hperm⟩ := hpq
    have hp := distinct p List.mem_cons_self
    obtain ⟨hnames, hdistinct, hmap⟩ := ih fun p hp => distinct p (List.mem_cons_of_mem _ hp)
    have htable : settingsTable q.2 = settingsTable p.2 := by
      refine (ofMembers_eq_of_perm (hperm.map _) ?_).symm
      rw [List.map_map]
      exact hp
    refine ⟨by simp only [List.map_cons, hnames, hname], ?_, by
      simp only [List.map_cons, hmap, hname, htable]⟩
    exact List.forall_mem_cons.mpr ⟨((hperm.map Prod.fst).nodup_iff).mp hp, hdistinct⟩

/-- The order does not matter. -/
theorem Reordered.sectionsTable_eq (h : Reordered ss ss') (distinct : Distinct ss) :
    Distinct ss' ∧ sectionsTable ss' = sectionsTable ss := by
  obtain ⟨sorted, hperm, hsorted⟩ := h
  have hdistinct := distinct.perm hperm
  obtain ⟨hnames, hsettings, hmap⟩ := map_settingsTable hsorted hdistinct.settings
  refine ⟨⟨hnames ▸ hdistinct.sections, hsettings⟩, ?_⟩
  unfold sectionsTable
  rw [hmap]
  refine (ofMembers_eq_of_perm (hperm.map _) ?_).symm
  rw [List.map_map]
  exact distinct.sections

/-- A document of sections has no mark of the byte order in front of it. -/
theorem Sections.skipMark_eq (h : Sections env ss s) :
    skipMark (substitute env s) = substitute env s := by
  -- a mark is not passed over, and no line of the document starts with it
  have hmark : ∀ u, trivia false ('\uFEFF' :: u) = some ('\uFEFF' :: u) := fun _ => rfl
  rw [skipMark]
  intro u heq
  have htrivia := hmark u
  rw [← heq] at htrivia
  cases h with
  | nil passes =>
    rw [passes.trivia_eq, substitute_nil] at htrivia
    rw [heq] at htrivia
    cases htrivia
  | cons passes header =>
    obtain ⟨l, rest, hheader, -, -⟩ := header.reads passes
    rw [hheader, heq] at htrivia
    cases htrivia

/-- A document of sections is read as their table, with the values of the environment in it,
whatever the order is. -/
theorem Sections.document_eq (h : Sections env ss' s) (order : Reordered ss ss')
    (distinct : Distinct ss) : document (substitute env s) = some (sectionsTable ss) := by
  obtain ⟨hdistinct, htable⟩ := order.sectionsTable_eq distinct
  unfold document
  rw [h.skipMark_eq, h.lines_eq, ← htable]
  exact value?_sections hdistinct

end

end Toml

end ChainBroker
