import ChainBroker.Json.Skip

/-!
# Typed reading of JSON

Readers for texts, truth values, whole numbers, optional values, lists, tables and records. They
read from left to right and stop at the first fault, be it of grammar or of fit.

A record is read by its *shape*: the fields it may have, and a draft that the fields are put into.
Members are found by name, in any order; unknown ones are passed over, and a known one may be given
once. A record may also be written as a list of its fields in their order; fields that have a
default may then be left out at the end.

* `decode r s` reads the whole source with `r`; nothing but blanks may follow.
* `recordOf shape` reads a record of that shape.
-/

namespace ChainBroker.Json

variable {α σ : Type}

/-- Reads a value of which the first piece after the blanks decides what to do. -/
def leading (read : (p : Utf8.Piece) → Reader α) : Reader α := fun s =>
  match h : skipBlanks s with
  | [] => .error .endInValue
  | p :: rest =>
    match read p rest with
    | .error e => .error e
    | .ok t => .ok (t.widen (Nat.le_of_lt (length_lt_of_skipBlanks h)))

/-- Reads a text. -/
def textValue : Reader String :=
  leading fun p rest =>
    if p = .char '"' then openText rest else .error (mismatch "a string" (p :: rest))

/-- Reads a truth value. -/
def boolValue : Reader Bool := fun s =>
  match h : skipBlanks s with
  | [] => .error .endInValue
  | p :: rest =>
    have hr := length_lt_of_skipBlanks h
    if p = .char 't' then
      match word ['r', 'u', 'e'] rest with
      | .error e => .error e
      | .ok r => .ok ⟨true, r.1, Nat.lt_of_le_of_lt r.2 hr⟩
    else if p = .char 'f' then
      match word ['a', 'l', 's', 'e'] rest with
      | .error e => .error e
      | .ok r => .ok ⟨false, r.1, Nat.lt_of_le_of_lt r.2 hr⟩
    else .error (mismatch "a boolean" (p :: rest))

/-- Reads a whole number between two bounds; `kind` names such numbers. -/
def intValue (low high : Int) (kind : String) : Reader Int := fun s =>
  match h : skipBlanks s with
  | [] => .error .endInValue
  | p :: rest =>
    have hr := length_lt_of_skipBlanks h
    if p = .char '-' || isDigit p then
      match number (p :: rest) with
      | .error e => .error e
      | .ok n =>
        match n.value with
        | .integer i =>
          if low ≤ i && i ≤ high then
            .ok ((n.map fun _ => i).widen (by simp only [List.length_cons]; omega))
          else .error (.misfit (.invalidValue (.integer i) kind))
        | .float _ => .error (.misfit (.invalidType n.value.found kind))
    else .error (mismatch kind (p :: rest))

/-- Passes over a value. -/
def ignored : Reader Unit := skipValue

/-- Reads null as nothing, and anything else with the given reader. -/
def nullable (r : Reader α) : Reader (Option α) := fun s =>
  match h : skipBlanks s with
  | .char 'n' :: rest =>
    match word ['u', 'l', 'l'] rest with
    | .error e => .error e
    | .ok w => .ok ⟨none, w.1, Nat.lt_of_le_of_lt w.2 (length_lt_of_skipBlanks h)⟩
  | _ =>
    match r s with
    | .error e => .error e
    | .ok t => .ok (t.map some)

/-! ## Lists -/

/-- The start of the next item of a list, or nothing if its end is next. -/
def nextItem (first : Bool) (s : Source) :
    Except Fault (Option (Remainder s)) :=
  match h : skipBlanks s with
  | [] => .error .endInList
  | p :: rest =>
    if p = .char ']' then .ok none
    else if first then .ok (some (.whole s))
    else if p = .char ',' then
      match skipBlanks rest with
      | [] => .error .endInValue
      | q :: _ =>
        if q = .char ']' then .error .trailingComma
        else .ok (some ⟨rest, Nat.le_of_lt (length_lt_of_skipBlanks h)⟩)
    else .error .listCommaExpected

/-- The end of a list. -/
def closeList (s : Source) : Except Fault { rest : Source // rest.length < s.length } :=
  match h : skipBlanks s with
  | [] => .error .endInList
  | p :: rest =>
    if p = .char ']' then .ok ⟨rest, length_lt_of_skipBlanks h⟩
    else if p = .char ',' then
      match skipBlanks rest with
      | .char ']' :: _ => .error .trailingComma
      | _ => .error .trailingCharacters
    else .error .trailingCharacters

/-- The items of a list up to and with its closing bracket. -/
def items (item : Reader α) (first : Bool) (s : Source) : Except Fault (Taken s.length (List α)) :=
  match nextItem first s with
  | .error e => .error e
  | .ok none =>
    match closeList s with
    | .error e => .error e
    | .ok rest => .ok ⟨[], rest.1, rest.2⟩
  | .ok (some start) =>
    match item start.1 with
    | .error e => .error e
    | .ok a =>
      have := a.shorter
      have := start.2
      match items item false a.rest with
      | .error e => .error e
      | .ok l => .ok ((l.map (a.value :: ·)).widen (by omega))
termination_by s.length

/-- Reads a list of values of one kind. -/
def listOf (item : Reader α) : Reader (List α) :=
  leading fun p rest =>
    if p = .char '[' then items item true rest else .error (mismatch "a sequence" (p :: rest))

/-! ## Members -/

/-- The name of the next member of a record, after its opening quotation mark, or nothing if the end
of the record is next. -/
def nextMember (first : Bool) (s : Source) :
    Except Fault (Option { rest : Source // rest.length < s.length }) :=
  match h : skipBlanks s with
  | [] => .error .endInRecord
  | p :: rest =>
    have hr := length_lt_of_skipBlanks h
    if p = .char '\x7d' then .ok none
    else if first then
      if p = .char '"' then .ok (some ⟨rest, hr⟩) else .error .nameExpected
    else if p = .char ',' then
      match h' : skipBlanks rest with
      | [] => .error .endInValue
      | q :: rest' =>
        if q = .char '"' then .ok (some ⟨rest', by have := length_lt_of_skipBlanks h'; omega⟩)
        else if q = .char '\x7d' then .error .trailingComma
        else .error .nameExpected
    else .error .recordCommaExpected

/-- What follows the colon after the name of a member. -/
def afterColon (s : Source) : Except Fault { rest : Source // rest.length < s.length } :=
  match h : skipBlanks s with
  | [] => .error .endInRecord
  | p :: rest =>
    if p = .char ':' then .ok ⟨rest, length_lt_of_skipBlanks h⟩ else .error .colonExpected

/-- The end of a record. -/
def closeRecord (s : Source) : Except Fault { rest : Source // rest.length < s.length } :=
  match h : skipBlanks s with
  | [] => .error .endInRecord
  | p :: rest =>
    if p = .char '\x7d' then .ok ⟨rest, length_lt_of_skipBlanks h⟩
    else if p = .char ',' then .error .trailingComma
    else .error .trailingCharacters

/-- The members of a table up to and with its closing bracket, in the order of the text. -/
def entries (value : Reader α) (first : Bool) (s : Source) :
    Except Fault (Taken s.length (List (String × α))) :=
  match nextMember first s with
  | .error e => .error e
  | .ok none =>
    match closeRecord s with
    | .error e => .error e
    | .ok rest => .ok ⟨[], rest.1, rest.2⟩
  | .ok (some start) =>
    have := start.2
    match openText start.1 with
    | .error e => .error e
    | .ok name =>
      have := name.shorter
      match afterColon name.rest with
      | .error e => .error e
      | .ok colon =>
        have := colon.2
        match value colon.1 with
        | .error e => .error e
        | .ok a =>
          have := a.shorter
          match entries value false a.rest with
          | .error e => .error e
          | .ok l => .ok ((l.map ((name.value, a.value) :: ·)).widen (by omega))
termination_by s.length

/-- Reads a record whose members are all of one kind, under any names. -/
def tableOf (value : Reader α) : Reader (List (String × α)) :=
  leading fun p rest =>
    if p = .char '\x7b' then entries value true rest else .error (mismatch "a map" (p :: rest))

/-! ## Records -/

/-- A field of a record: its name, and how it is put into a draft of the record. -/
structure Field (σ : Type) where
  name : String
  /-- Whether it may be left out. -/
  need : Need
  /-- Whether the draft has it. -/
  given : σ → Bool
  /-- Reads the value and puts it into the draft. -/
  read : σ → Reader σ

/-- A field that is read by `r` and kept by `put`. -/
def Field.of (name : String) (need : Need) (r : Reader α) (get : σ → Option α)
    (put : σ → α → σ) : Field σ where
  name
  need
  given draft := (get draft).isSome
  read draft s := (r s).map fun t => t.map (put draft)

/-- The shape of a record. -/
structure Shape (σ : Type) where
  /-- What the record is called in diagnostics. -/
  title : String
  /-- Its fields, in order. -/
  fields : List (Field σ)

/-- Reads one member into the draft: a known one by its field, an unknown one not at all. -/
def member (shape : Shape σ) (draft : σ) (name : String) (s : Source) :
    Except Fault (Taken s.length σ) :=
  match shape.fields.find? (·.name == name) with
  | some field =>
    if field.given draft then .error (.misfit (.duplicateField name))
    else
      match afterColon s with
      | .error e => .error e
      | .ok colon =>
        match field.read draft colon.1 with
        | .error e => .error e
        | .ok t => .ok (t.widen (Nat.le_of_lt colon.2))
  | none =>
    match afterColon s with
    | .error e => .error e
    | .ok colon =>
      match skipValue colon.1 with
      | .error e => .error e
      | .ok t => .ok ((t.map fun _ => draft).widen (Nat.le_of_lt colon.2))

/-- The members of a record up to and with its closing bracket. -/
def members (shape : Shape σ) (draft : σ) (first : Bool) (s : Source) :
    Except Fault (Taken s.length σ) :=
  match nextMember first s with
  | .error e => .error e
  | .ok none =>
    match shape.fields.find? fun field => field.need = .required && !field.given draft with
    | some field => .error (.misfit (.missingField field.name))
    | none =>
      match closeRecord s with
      | .error e => .error e
      | .ok rest => .ok ⟨draft, rest.1, rest.2⟩
  | .ok (some start) =>
    have := start.2
    match openText start.1 with
    | .error e => .error e
    | .ok name =>
      have := name.shorter
      match member shape draft name.value name.rest with
      | .error e => .error e
      | .ok t =>
        have := t.shorter
        match members shape t.value false t.rest with
        | .error e => .error e
        | .ok r => .ok (r.widen (by omega))
termination_by s.length

/-- The fields of a record in the form of a list, up to and with the closing bracket; `index` is the
place of the first of them in the record. -/
def listedFields (shape : Shape σ) (first : Bool) (index : Nat) (draft : σ) :
    List (Field σ) → (s : Source) → Except Fault (Taken s.length σ)
  | [], s =>
    match closeList s with
    | .error e => .error e
    | .ok rest => .ok ⟨draft, rest.1, rest.2⟩
  | field :: fields, s =>
    match nextItem first s with
    | .error e => .error e
    | .ok none =>
      if field.need = .defaulted then listedFields shape first (index + 1) draft fields s
      else .error (.misfit (.invalidLength index (sizedTitle shape.title shape.fields.length)))
    | .ok (some start) =>
      match field.read draft start.1 with
      | .error e => .error e
      | .ok t =>
        match listedFields shape false (index + 1) t.value fields t.rest with
        | .error e => .error e
        | .ok r => .ok (r.widen (by have := start.2; have := t.shorter; omega))

/-- Reads a record of a shape into a draft. -/
def recordOf (shape : Shape σ) (blank : σ) : Reader σ :=
  leading fun p rest =>
    if p = .char '\x7b' then members shape blank true rest
    else if p = .char '[' then listedFields shape true 0 blank shape.fields rest
    else .error (mismatch shape.title (p :: rest))

/-- Reads a whole document. -/
def decode (r : Reader α) (s : Source) : Except Fault α :=
  match r s with
  | .error e => .error e
  | .ok t => if (skipBlanks t.rest).isEmpty then .ok t.value else .error .trailingCharacters

end ChainBroker.Json
