import ChainBroker.Toml.Value

/-!
# Typed reading of TOML values

Decoders take texts, whole numbers, choices and records from values, or say why a value does not
fit.

A record is decoded by its *shape*: the fields it may have, and a draft that the fields are put
into. Its members are taken in the order of their names, and the first one that does not fit is
reported; fields that are missing are reported last. A record may also be given as a list of its
fields in their order, of which only those with a default may be left out at the end.
-/

namespace ChainBroker.Toml

variable {α σ : Type}

/-- Takes something from a value. -/
abbrev Decoder (α : Type) : Type := Toml → Except Misfit α

/-- Takes a text; `expected` says what it is. -/
def textAs (expected : String) : Decoder String
  | .text s => .ok s
  | v => .error (v.mismatch expected)

/-- Takes a text of any kind. -/
def textValue : Decoder String := textAs "a string"

/-- Takes a whole number of 64 bits that is not negative. -/
def naturalValue : Decoder Nat
  | .integer (.ofNat n) =>
    if n < UInt64.size then .ok n else .error ((Toml.integer n).mismatch "u64")
  | .integer n =>
    if Int64.minValue.toInt ≤ n then .error (.invalidValue (.integer n) "u64")
    else .error ((Toml.integer n).mismatch "u64")
  | v => .error (v.mismatch "u64")

/-- Takes an optional value, which is there if anything is. -/
def optional (decode : Decoder α) : Decoder (Option α) := fun v => (decode v).map some

/-- The alternative of a name. -/
def alternative (alternatives : List (String × α)) (name : String) : Except Misfit α :=
  match alternatives.lookup name with
  | some a => .ok a
  | none => .error (.unknownVariant name (alternatives.map Prod.fst))

/-- Takes one of several alternatives: its name, or a table that holds nothing but something empty
under that name. -/
def choice (alternatives : List (String × α)) : Decoder α
  | .text name => alternative alternatives name
  | .table [(name, content)] => do
    let a ← alternative alternatives name
    match content with
    | .table [] | .list [] => .ok a
    | _ => .error (.other "wanted an empty table")
  | .table _ => .error (.other "wanted exactly 1 element")
  | _ => .error (.other "wanted string or table")

/-! ## Records -/

/-- A field of a record: its name, and how it is put into a draft of the record. -/
structure Field (σ : Type) where
  name : String
  /-- Whether it may be left out. -/
  need : Need
  /-- Whether the draft has it. -/
  given : σ → Bool
  /-- Takes the value and puts it into the draft. -/
  decode : σ → Decoder σ

/-- A field that is taken by `decode` and kept by `put`. -/
def Field.of (name : String) (need : Need) (decode : Decoder α) (get : σ → Option α)
    (put : σ → α → σ) : Field σ where
  name
  need
  given draft := (get draft).isSome
  decode draft v := (decode v).map (put draft)

/-- The shape of a record. -/
structure Shape (σ : Type) where
  /-- What the record is called in diagnostics. -/
  title : String
  /-- Its fields, in order. -/
  fields : List (Field σ)
  /-- Whether members that are no fields are refused. -/
  closed : Bool

/-- Puts members into the draft of a record. -/
def members (shape : Shape σ) : (draft : σ) → List (String × Toml) → Except Misfit σ
  | draft, [] =>
    match shape.fields.find? fun field => field.need = .required && !field.given draft with
    | some field => .error (.missingField field.name)
    | none => .ok draft
  | draft, (name, v) :: rest =>
    match shape.fields.find? (·.name == name) with
    | some field =>
      match field.decode draft v with
      | .error e => .error e
      | .ok draft => members shape draft rest
    | none =>
      if shape.closed then .error (.unknownField name (shape.fields.map Field.name))
      else members shape draft rest

/-- Puts the items of a list into the draft of a record; `index` is the place of the first one. -/
def listed (shape : Shape σ) : (index : Nat) → (draft : σ) → List (Field σ) → List Toml →
    Except Misfit σ
  | _, draft, [], _ => .ok draft
  | index, draft, field :: fields, [] =>
    if field.need = .defaulted then listed shape (index + 1) draft fields []
    else .error (.invalidLength index (sizedTitle shape.title shape.fields.length))
  | index, draft, field :: fields, v :: rest =>
    match field.decode draft v with
    | .error e => .error e
    | .ok draft => listed shape (index + 1) draft fields rest

/-- Takes a record of a shape into a draft. A point in time is a record without any of the fields.
-/
def recordOf (shape : Shape σ) (blank : σ) : Decoder σ
  | .table ms => members shape blank ms
  | .moment => members shape blank []
  | .list l => listed shape 0 blank shape.fields l
  | v => .error (v.mismatch shape.title)

end ChainBroker.Toml
