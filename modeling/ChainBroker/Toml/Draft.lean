import ChainBroker.Toml.Value

/-!
# Documents in the making

A document gives its tables piece by piece. A header `[a.b]` opens the table `a.b` for the pairs
that follow, a header `[[a.b]]` opens a new row of the list of tables `a.b`, and a dotted key `c.d =
1` puts a member into the table `c` of the open table. Tables on the way come into being unasked.

Nothing is given twice, so it matters how a table came into being (`Origin`):

* a header opens a table that is new or has been on the way of headers only;
* a dotted key puts a member into a table that is new or that dotted keys have made, and it does not
  pass through a table that a header has opened.

`Document.value?` puts everything together.
-/

namespace ChainBroker.Toml

/-- How a table has come into being. -/
inductive Origin where
  /-- On the way of a header. -/
  | passed
  /-- On the way of a dotted key. -/
  | dotted
  /-- By a header of its own. -/
  | headed
deriving DecidableEq, Repr

/-- What has been given under a name so far. -/
inductive Draft where
  /-- A value, to which nothing can be added. -/
  | closed (value : Toml)
  | table (origin : Origin) (members : List (String × Draft))
  /-- A list of tables, of which only the last one can still get members. -/
  | rows (earlier : List Toml) (last : List (String × Draft))

/-- The members of a table so far. -/
abbrev Members : Type := List (String × Draft)

mutual

/-- The value that has been given. -/
def Draft.close : Draft → Toml
  | .closed value => value
  | .table _ members => ofMembers (closeMembers members)
  | .rows earlier last => .list (earlier ++ [ofMembers (closeMembers last)])

/-- The values of members. -/
def closeMembers : List (String × Draft) → List (String × Toml)
  | [] => []
  | (name, draft) :: members => (name, draft.close) :: closeMembers members

end

/-- The members with one of them set. -/
def put (name : String) (draft : Draft) : Members → Members
  | [] => [(name, draft)]
  | (other, old) :: members =>
    if other = name then (name, draft) :: members else (other, old) :: put name draft members

/-- Changes what stands at the end of a header's path. -/
def alter (change : Option Draft → Option Draft) : (path : List String) → Members → Option Members
  | [], _ => none
  | [name], members => (change (members.lookup name)).map (put name · members)
  | name :: path, members =>
    match members.lookup name with
    | none => (alter change path []).map fun inner => put name (.table .passed inner) members
    | some (.table origin inner) =>
      (alter change path inner).map fun inner => put name (.table origin inner) members
    | some (.rows earlier last) =>
      (alter change path last).map fun last => put name (.rows earlier last) members
    | some (.closed _) => none

/-- Puts a value at the end of a dotted key. -/
def insert (value : Toml) : (path : List String) → Members → Option Members
  | [], _ => none
  | [name], members =>
    match members.lookup name with
    | none => some (put name (.closed value) members)
    | some _ => none
  | name :: next :: path, members =>
    match members.lookup name with
    | none =>
      (insert value (next :: path) []).map fun inner => put name (.table .dotted inner) members
    | some (.table .dotted inner) =>
      (insert value (next :: path) inner).map fun inner => put name (.table .dotted inner) members
    | some (.table .passed inner) =>
      if path = [] then none
      else
        (insert value (next :: path) inner).map fun inner => put name (.table .passed inner) members
    | some (.rows earlier last) =>
      if path = [] then none
      else (insert value (next :: path) last).map fun last => put name (.rows earlier last) members
    | some (.table .headed _) | some (.closed _) => none

/-! ## Documents -/

/-- A dotted key and its value. -/
structure Pair where
  /-- The names of the key. -/
  path : List String
  value : Toml

/-- A header. -/
inductive Header where
  | table (path : List String)
  /-- A row of a list of tables. -/
  | row (path : List String)

/-- A header with the pairs that follow it. -/
structure Section where
  header : Header
  pairs : List Pair

/-- The pairs before all headers, and the sections. -/
structure Document where
  /-- The pairs before all headers. -/
  top : List Pair
  sections : List Section

/-- The members with pairs put into them. -/
def insertAll (pairs : List Pair) (members : Members) : Option Members :=
  pairs.foldlM (fun members pair => insert pair.value pair.path members) members

/-- The table that comes of pairs alone. -/
def ofPairs (pairs : List Pair) : Option Toml :=
  (insertAll pairs []).map fun members => ofMembers (closeMembers members)

/-- What stands under a header after its section. -/
def Section.change (s : Section) (old : Option Draft) : Option Draft :=
  match s.header, old with
  | .table _, none => (insertAll s.pairs []).map (.table .headed)
  | .table _, some (.table .passed members) => (insertAll s.pairs members).map (.table .headed)
  | .row _, none => (insertAll s.pairs []).map (.rows [])
  | .row _, some (.rows earlier last) =>
    (insertAll s.pairs []).map (.rows (earlier ++ [ofMembers (closeMembers last)]))
  | _, some _ => none

/-- The path of a header. -/
def Header.path : Header → List String
  | .table path | .row path => path

/-- The members with a section added to them. -/
def addSection (members : Members) (s : Section) : Option Members :=
  alter s.change s.header.path members

/-- The members that a document gives, in the order of their names, unless something is given twice.
-/
def Document.value? (d : Document) : Option Toml := do
  let top ← insertAll d.top []
  let members ← d.sections.foldlM addSection top
  return ofMembers (closeMembers members)

end ChainBroker.Toml
