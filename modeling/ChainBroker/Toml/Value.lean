import ChainBroker.Decimal
import ChainBroker.Misfit

/-!
# TOML values

A document is a table. The members of a table are kept in the order of their names, for a document
may give them in any order. Of a point in time nothing is needed but that it is one.
-/

namespace ChainBroker

/-- A number with a point or an exponent, or one that has no digits. -/
inductive Toml.Numeral where
  /-- A number by its sign and its size. -/
  | finite (negative : Bool) (size : Decimal)
  | infinity (negative : Bool)
  /-- What is not a number. -/
  | notANumber
deriving DecidableEq, Repr

/-- A TOML value. -/
inductive Toml where
  | text (value : String)
  /-- A truth value. -/
  | bool (value : Bool)
  /-- A whole number of any size. -/
  | integer (value : Int)
  /-- Any other number. -/
  | decimal (numeral : Toml.Numeral)
  /-- A date, a time, or both. -/
  | moment
  | list (items : List Toml)
  /-- Named values. -/
  | table (members : List (String × Toml))
deriving Inhabited, Repr

namespace Toml

/-- The table with these members. -/
def ofMembers (members : List (String × Toml)) : Toml :=
  .table (members.mergeSort fun a b => a.1 ≤ b.1)

/-- The nearest floating-point number, unless the numeral has digits and is too large for one. -/
def Numeral.float? : Numeral → Option Float
  | .finite negative size =>
    let x := size.nearest
    if x.isInf then none else some (if negative then -x else x)
  | .infinity negative => some (if negative then -(1 / 0) else 1 / 0)
  | .notANumber => some (0 / 0)

/-- What a whole number is called: numbers of 64 bits have no particular name, and none is larger
than 128 bits. -/
def foundInteger (n : Int) : Except Misfit Found :=
  if Int64.minValue.toInt ≤ n ∧ n < UInt64.size then .ok (.integer n)
  else if -(Nat.pow 2 127 : Int) ≤ n ∧ n < Nat.pow 2 127 then .ok (.longInteger n "i128")
  else if 0 ≤ n ∧ n < Nat.pow 2 128 then .ok (.longInteger n "u128")
  else .error (.other "integer number overflowed")

/-- What was found where something else was expected. -/
def found : Toml → Except Misfit Found
  | .text s => .ok (.text s)
  | .bool b => .ok (.bool b)
  | .integer n => foundInteger n
  | .decimal numeral =>
    match numeral.float? with
    | some x => .ok (.decimal (Decimal.positional x))
    | none => .error (.other "floating-point number overflowed")
  | .list _ => .ok .list
  | .moment | .table _ => .ok .record

/-- Why a value is not what was expected. -/
def mismatch (expected : String) (value : Toml) : Misfit :=
  match value.found with
  | .ok found => .invalidType found expected
  | .error reason => reason

end Toml

end ChainBroker
