import ChainBroker.Text.Hex
import ChainBroker.Text.Split

/-!
# Tables of code points

A table assigns a number to each code point of some runs. It is written as lines of items with
blanks between them: an item is a code point or a range of them, such as `61-7a`, and may carry a
number after a colon. A second kind of table assigns several code points, with points between them,
to single ones. All numbers are hexadecimal, and the items ascend.
-/

namespace ChainBroker.Unicode

/-- Consecutive code points and a number. -/
structure CodeRun where
  /-- The first code point. -/
  first : Nat
  /-- The last code point. -/
  last : Nat
  /-- The number. -/
  value : Nat
deriving DecidableEq, Repr

/-- Runs in ascending order. -/
abbrev CodeTable : Type := Array CodeRun

/-- Code points with those that stand for them, in ascending order. -/
abbrev ExpansionTable : Type := Array (Nat × List Nat)

/-- The number that hexadecimal digits denote. -/
def hexNumber (digits : List Char) : Nat :=
  digits.foldl (fun n c => n * 16 + (Text.hexValue? c).getD 0) 0

/-- The items of lines. -/
def lineItems (lines : List String) : List (List Char) :=
  lines.flatMap fun line => Text.splitAt ' ' line.toList

/-- The parts of an item before and after the colon. -/
def splitItem (item : List Char) : List Char × List Char :=
  match item.span (· ≠ ':') with
  | (key, _ :: value) => (key, value)
  | (key, []) => (key, [])

/-- The run that an item denotes. -/
def CodeRun.ofItem (item : List Char) : CodeRun :=
  let (range, value) := splitItem item
  match range.span (· ≠ '-') with
  | (first, _ :: last) => ⟨hexNumber first, hexNumber last, hexNumber value⟩
  | (first, []) => ⟨hexNumber first, hexNumber first, hexNumber value⟩

namespace CodeTable

/-- The table that lines denote. -/
def ofLines (lines : List String) : CodeTable := ((lineItems lines).map CodeRun.ofItem).toArray

/-- The run of a code point among those at the places from `low` to below `high`. -/
def findBetween (t : CodeTable) (code low high : Nat) : Option CodeRun :=
  if _h : low < high then
    let middle := (low + high) / 2
    match t[middle]? with
    | none => none
    | some run =>
      if code < run.first then findBetween t code low middle
      else if run.last < code then findBetween t code (middle + 1) high
      else some run
  else none
termination_by high - low

/-- The run of a code point. -/
def find? (t : CodeTable) (code : Nat) : Option CodeRun := t.findBetween code 0 t.size

/-- Whether the code point is in one of the runs. -/
def contains (t : CodeTable) (code : Nat) : Bool := (t.find? code).isSome

end CodeTable

namespace ExpansionTable

/-- The table that lines denote. -/
def ofLines (lines : List String) : ExpansionTable :=
  ((lineItems lines).map fun item =>
    let (code, codes) := splitItem item
    (hexNumber code, (Text.splitAt '.' codes).map hexNumber)).toArray

/-- What stands for a code point, among the entries from `low` to below `high`. -/
def findBetween (t : ExpansionTable) (code low high : Nat) : Option (List Nat) :=
  if _h : low < high then
    let middle := (low + high) / 2
    match t[middle]? with
    | none => none
    | some entry =>
      if code < entry.1 then findBetween t code low middle
      else if entry.1 < code then findBetween t code (middle + 1) high
      else some entry.2
  else none
termination_by high - low

/-- What stands for a code point. -/
def find? (t : ExpansionTable) (code : Nat) : Option (List Nat) := t.findBetween code 0 t.size

end ExpansionTable

end ChainBroker.Unicode
