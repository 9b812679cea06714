import ChainBroker.Toml.Draft
import ChainBroker.Toml.Scalar
import ChainBroker.Toml.Text

/-!
# Reading TOML

A document is a list of lines, each of which holds a header or a pair of a key and a value, and of
blank lines between them. Lists and tables may be written inside a line, and may then go on over
several lines. Inside each other they stand at most `maxDepth` deep.

* `Toml.document` reads a document; a byte order mark at its front is passed over.
-/

namespace ChainBroker.Toml

/-! ## Keys -/

/-- Whether the character may stand in a key without quotation marks. -/
def isBareChar (c : Char) : Bool := c.isAlphanum || c == '_' || c == '-'

/-- One name of a key. -/
def name (s : Source) : Option (Taken s.length String) :=
  match s with
  | [] => none
  | c :: rest =>
    if c = '"' ∨ c = '\'' then
      match shortText c rest with
      | none => none
      | some t => some ((t.map String.ofList).behind c)
    else if isBareChar c then
      some ⟨String.ofList (c :: rest.takeWhile isBareChar), rest.dropWhile isBareChar,
        Nat.lt_succ_of_le (List.dropWhile_suffix isBareChar).length_le⟩
    else none

/-- One name of a key and the blanks after it. -/
def paddedName (s : Source) : Option (Taken s.length String) :=
  (name s).map fun t =>
    ⟨t.value, skipBlanks t.rest, Nat.lt_of_le_of_lt (length_skipBlanks_le t.rest) t.shorter⟩

/-- A dot between names and the blanks after it. -/
def dot (s : Source) : Option (Taken s.length Unit) :=
  match s with
  | '.' :: rest => some ⟨(), skipBlanks rest, Nat.lt_succ_of_le (length_skipBlanks_le rest)⟩
  | _ => none

/-- The names of a key with dots between them, and the blanks after it. -/
def key (s : Source) : Option (Taken s.length (List String)) :=
  match paddedName s with
  | none => none
  | some first =>
    match dot first.rest with
    | none => some (first.map ([·]))
    | some t =>
      have shorter := Nat.lt_trans t.shorter first.shorter
      match key t.rest with
      | none => none
      | some more => some ((more.map (first.value :: ·)).widen (Nat.le_of_lt shorter))
termination_by s.length

/-- A key with the equals sign and the blanks after it. -/
def assigned (s : Source) : Option (Taken s.length (List String)) :=
  match key s with
  | some ⟨path, '=' :: rest, h⟩ =>
    some ⟨path, skipBlanks rest, by
      have := length_skipBlanks_le rest
      simp only [List.length_cons] at h
      omega⟩
  | _ => none

/-! ## Values -/

/-- How deep lists and tables may stand inside each other. -/
def maxDepth : Nat := 80

/-- A value that is a single word. -/
def scalar (s : Source) : Option (Taken s.length Toml) :=
  let word := takeWord s
  match scalar? word with
  | none => none
  | some v =>
    if h : 0 < word.length ∧ word.length ≤ s.length then
      some ⟨v, s.drop word.length, by rw [List.length_drop]; omega⟩
    else none

mutual

/-- A value that may hold other ones so many levels deep. -/
def value (depth : Nat) (s : Source) : Option (Taken s.length Toml) :=
  match s with
  | [] => none
  | c :: rest =>
    if c = '"' ∨ c = '\'' then
      match anyText c rest with
      | none => none
      | some t => some ((t.map .text).behind c)
    else if c = '[' then
      if depth = 0 then none
      else match items (depth - 1) rest with
        | none => none
        | some t => some ((t.map .list).behind c)
    else if c = '\x7b' then
      if depth = 0 then none
      else match pairs (depth - 1) rest with
        | none => none
        | some t =>
          match ofPairs t.value with
          | none => none
          | some v => some ((t.map fun _ => v).behind c)
    else scalar (c :: rest)
termination_by 2 * s.length

/-- The items of a list after its opening bracket or a comma, up to and with its closing bracket. -/
def items (depth : Nat) (s : Source) : Option (Taken s.length (List Toml)) :=
  match h : trivia false s with
  | none => none
  | some (']' :: rest) => some ⟨[], rest, length_le_of_trivia h⟩
  | some start =>
    have := length_le_of_trivia h
    match value depth start with
    | none => none
    | some v =>
      have := v.shorter
      match h : trivia false v.rest with
      | some (',' :: rest) =>
        have : rest.length < v.rest.length := length_le_of_trivia h
        match items depth rest with
        | none => none
        | some t => some ((t.map (v.value :: ·)).widen (by omega))
      | some (']' :: rest) =>
        have : rest.length < v.rest.length := length_le_of_trivia h
        some ⟨[v.value], rest, by omega⟩
      | _ => none
termination_by 2 * s.length + 1

/-- The pairs of a table after its opening brace or a comma, up to and with its closing brace. -/
def pairs (depth : Nat) (s : Source) : Option (Taken s.length (List Pair)) :=
  match h : trivia false s with
  | none => none
  | some ('\x7d' :: rest) => some ⟨[], rest, length_le_of_trivia h⟩
  | some start =>
    have := length_le_of_trivia h
    match assigned start with
    | none => none
    | some path =>
      have := path.shorter
      match value depth path.rest with
      | none => none
      | some v =>
        have := v.shorter
        match h : trivia false v.rest with
        | some (',' :: rest) =>
          have : rest.length < v.rest.length := length_le_of_trivia h
          match pairs depth rest with
          | none => none
          | some t => some ((t.map (⟨path.value, v.value⟩ :: ·)).widen (by omega))
        | some ('\x7d' :: rest) =>
          have : rest.length < v.rest.length := length_le_of_trivia h
          some ⟨[⟨path.value, v.value⟩], rest, by omega⟩
        | _ => none
termination_by 2 * s.length + 1

end

/-! ## Lines -/

/-- What a line holds. -/
inductive Line where
  /-- A header. -/
  | header (header : Header)
  /-- A key and its value. -/
  | pair (pair : Pair)

/-- A header after its opening bracket. -/
def header (s : Source) : Option (Taken s.length Header) :=
  match s with
  | '[' :: rest =>
    match key (skipBlanks rest) with
    | some ⟨path, ']' :: ']' :: rest', h⟩ =>
      some ⟨.row path, rest', by
        have := length_skipBlanks_le rest
        simp only [List.length_cons] at *
        omega⟩
    | _ => none
  | s =>
    match key (skipBlanks s) with
    | some ⟨path, ']' :: rest, h⟩ =>
      some ⟨.table path, rest, by
        have := length_skipBlanks_le s
        simp only [List.length_cons] at *
        omega⟩
    | _ => none

/-- What stands on a line, without the end of the line. -/
def lineContent (s : Source) : Option (Taken s.length Line) :=
  match s with
  | '[' :: rest =>
    match header rest with
    | none => none
    | some t => some ((t.map .header).behind '[')
  | s =>
    match assigned s with
    | none => none
    | some path =>
      have := path.shorter
      match value maxDepth path.rest with
      | none => none
      | some v => some ((v.map fun v => .pair ⟨path.value, v⟩).widen (by omega))

/-- The lines of a document. -/
def lines (s : Source) : Option (List Line) :=
  match h : trivia false s with
  | none => none
  | some [] => some []
  | some start =>
    have := length_le_of_trivia h
    match lineContent start with
    | none => none
    | some content =>
      have := content.shorter
      match h : lineEnd false content.rest with
      | none => none
      | some rest =>
        have := length_le_of_lineEnd h
        match lines rest with
        | none => none
        | some more => some (content.value :: more)
termination_by s.length
decreasing_by omega

/-- The document that lines make up. -/
def Document.ofLines : List Line → Document
  | [] => ⟨[], []⟩
  | .pair pair :: lines =>
    let rest := ofLines lines
    ⟨pair :: rest.top, rest.sections⟩
  | .header header :: lines =>
    let rest := ofLines lines
    ⟨[], ⟨header, rest.top⟩ :: rest.sections⟩

/-- The source without a byte order mark. -/
def skipMark : Source → Source
  | '\uFEFF' :: s => s
  | s => s

/-- The table that a document gives, if it is one. -/
def document (s : Source) : Option Toml := do
  (Document.ofLines (← lines (skipMark s))).value?

end ChainBroker.Toml
