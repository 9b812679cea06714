import ChainBroker.Text.Hex
import ChainBroker.Toml.Source

/-!
# Texts in TOML

A text stands between quotation marks or apostrophes; only between quotation marks do backslashes
have a meaning. Between single marks it ends on its line. Between triple marks it goes on over
lines: a line end right after the opening is dropped, and one or two marks may precede the closing.
-/

namespace ChainBroker.Toml

/-- The number that so many hexadecimal digits make after the digits read so far. -/
def hexDigits : (count value : Nat) → (s : Source) →
    Option (Nat × Remainder s)
  | 0, value, s => some (value, .whole s)
  | _ + 1, _, [] => none
  | count + 1, value, c :: s =>
    match Text.hexValue? c with
    | none => none
    | some digit =>
      match hexDigits count (value * 16 + digit) s with
      | none => none
      | some (n, rest) => some (n, ⟨rest.1, Nat.le_succ_of_le rest.2⟩)

/-- The character of a letter that follows a backslash. -/
def escapeLetter? : Char → Option Char
  | '"' => some '"'
  | '\\' => some '\\'
  | 'b' => some '\x08'
  | 'e' => some '\x1b'
  | 'f' => some '\x0c'
  | 'n' => some '\n'
  | 'r' => some '\r'
  | 't' => some '\t'
  | _ => none

/-- How many digits follow a letter that announces the number of a character. -/
def escapeDigits? : Char → Option Nat
  | 'x' => some 2
  | 'u' => some 4
  | 'U' => some 8
  | _ => none

/-- The character that an escape stands for, after its backslash. -/
def escape : Reader Char
  | [] => none
  | c :: s =>
    match escapeLetter? c, escapeDigits? c with
    | some c, _ => some ⟨c, s, by simp⟩
    | none, none => none
    | none, some count =>
      match hexDigits count 0 s with
      | none => none
      | some (n, rest) =>
        if n.isValidChar then some ⟨Char.ofNat n, rest.1, Nat.lt_succ_of_le rest.2⟩ else none

/-- The characters of a text between single marks, after the opening. -/
def shortText (mark : Char) (s : Source) : Option (Taken s.length (List Char)) :=
  match s with
  | [] => none
  | c :: rest =>
    if c = mark then some ⟨[], rest, by simp⟩
    else if c = '\\' ∧ mark = '"' then
      match escape rest with
      | none => none
      | some e =>
        have := e.shorter
        match shortText mark e.rest with
        | none => none
        | some t => some ((t.map (e.value :: ·)).widen (by simp only [List.length_cons]; omega))
    else if isPlain c then
      match shortText mark rest with
      | none => none
      | some t => some ((t.map (c :: ·)).behind c)
    else none
termination_by s.length

/-! ## Texts over several lines -/

/-- The source without blanks and line ends at its front. -/
def skipSpace : Source → Source
  | '\n' :: s => skipSpace s
  | '\r' :: '\n' :: s => skipSpace s
  | c :: s => if isBlank c then skipSpace s else c :: s
  | [] => []

theorem length_skipSpace_le (s : Source) : (skipSpace s).length ≤ s.length := by
  induction s using skipSpace.induct <;> grind [skipSpace]

/-- What follows a backslash at the end of a line: the line end goes, and so do all blanks and line
ends after it. -/
def joinLines? : Source → Option Source
  | '\n' :: s => some (skipSpace s)
  | '\r' :: '\n' :: s => some (skipSpace s)
  | c :: s => if isBlank c then joinLines? s else none
  | [] => none

theorem length_le_of_joinLines {s rest : Source} (h : joinLines? s = some rest) :
    rest.length ≤ s.length := by
  induction s using joinLines?.induct generalizing rest <;>
    grind [joinLines?, length_skipSpace_le]

/-- The source without the line end right after the opening of a text. -/
def dropLineEnd : Source → Source
  | '\n' :: s => s
  | '\r' :: '\n' :: s => s
  | s => s

theorem length_dropLineEnd_le (s : Source) : (dropLineEnd s).length ≤ s.length := by
  unfold dropLineEnd
  split <;> grind

/-- Takes as many marks as there are, but no more than the limit. -/
def takeMarks (mark : Char) : (limit : Nat) → Source → List Char × Source
  | limit + 1, c :: s =>
    if c = mark then (c :: (takeMarks mark limit s).1, (takeMarks mark limit s).2)
    else ([], c :: s)
  | _, s => ([], s)

theorem length_takeMarks_le (mark : Char) (limit : Nat) (s : Source) :
    (takeMarks mark limit s).2.length ≤ s.length := by
  induction limit, s using takeMarks.induct mark <;> grind [takeMarks]

/-- The characters of a text between triple marks, after the opening. -/
def longText (mark : Char) (s : Source) : Option (Taken s.length (List Char)) :=
  match s with
  | [] => none
  | c :: rest =>
    if c = mark ∧ rest.take 2 = [mark, mark] then
      have := length_takeMarks_le mark 2 (rest.drop 2)
      some ⟨(takeMarks mark 2 (rest.drop 2)).1, (takeMarks mark 2 (rest.drop 2)).2, by
        simp only [List.length_drop, List.length_cons] at *; omega⟩
    else if c = '\\' ∧ mark = '"' then
      match h : joinLines? rest with
      | some joined =>
        have := length_le_of_joinLines h
        match longText mark joined with
        | none => none
        | some t => some (t.widen (by simp only [List.length_cons]; omega))
      | none =>
        match escape rest with
        | none => none
        | some e =>
          have := e.shorter
          match longText mark e.rest with
          | none => none
          | some t => some ((t.map (e.value :: ·)).widen (by simp only [List.length_cons]; omega))
    else if isPlain c ∨ c = '\n' ∨ (c = '\r' ∧ rest.head? = some '\n') then
      match longText mark rest with
      | none => none
      | some t => some ((t.map (c :: ·)).behind c)
    else none
termination_by s.length
decreasing_by all_goals (simp only [List.length_cons]; omega)

/-- A text after its first mark. -/
def anyText (mark : Char) (s : Source) : Option (Taken s.length String) :=
  let t :=
    if s.take 2 = [mark, mark] then
      (longText mark (dropLineEnd (s.drop 2))).map
        (·.widen (Nat.le_trans (length_dropLineEnd_le _) (by simp)))
    else shortText mark s
  t.map (·.map String.ofList)

end ChainBroker.Toml
