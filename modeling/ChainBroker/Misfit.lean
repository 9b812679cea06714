import ChainBroker.Text.Quoted

/-!
# Misfits

A document can be well formed and still not fit what is to be read from it: a value has another
type, a setting has no such name, a member is missing or given twice. The causes and their wording
are the same for every document format.
-/

namespace ChainBroker

/-- What stands in a document where something else was expected. -/
inductive Found where
  /-- Nothing, said by a word of the format. -/
  | nothing (word : String)
  /-- A truth value. -/
  | bool (value : Bool)
  /-- A whole number. -/
  | integer (value : Int)
  /-- A whole number too long for 64 bits, with the name of the kind of number that holds it. -/
  | longInteger (value : Int) (kind : String)
  /-- A number with a fraction or an exponent, as written. -/
  | decimal (written : String)
  | text (value : String)
  | list
  /-- Named values. -/
  | record
deriving DecidableEq, Repr

/-- What was found, in words. -/
def Found.describe : Found → String
  | .nothing word => word
  | .bool true => "boolean `true`"
  | .bool false => "boolean `false`"
  | .integer n => "integer `" ++ toString n ++ "`"
  | .longInteger n kind => "integer `" ++ toString n ++ "` as " ++ kind
  | .decimal written => "floating point `" ++ written ++ "`"
  | .text s => "string " ++ Text.quoted s
  | .list => "sequence"
  | .record => "map"

/-- Why a well-formed document does not fit what is read from it. -/
inductive Misfit where
  /-- A value has the wrong type. -/
  | invalidType (found : Found) (expected : String)
  /-- A value has the right type and is not allowed. -/
  | invalidValue (found : Found) (expected : String)
  /-- A list has too few items. -/
  | invalidLength (length : Nat) (expected : String)
  /-- A choice has no such alternative. -/
  | unknownVariant (name : String) (known : List String)
  /-- A record has no such member. -/
  | unknownField (name : String) (known : List String)
  /-- A member that has to be given is not. -/
  | missingField (name : String)
  /-- A member is given twice. -/
  | duplicateField (name : String)
  /-- Any other reason, in its own words. -/
  | other (reason : String)
deriving DecidableEq, Repr

/-- The known names, as the end of a sentence that says what was expected. -/
def listNames : List String → String
  | [] => "there are no names"
  | [a] => "expected `" ++ a ++ "`"
  | [a, b] => "expected `" ++ a ++ "` or `" ++ b ++ "`"
  | names => "expected one of " ++ ", ".intercalate (names.map fun name => "`" ++ name ++ "`")

/-- The reason in words. -/
def Misfit.message : Misfit → String
  | .invalidType found expected => "invalid type: " ++ found.describe ++ ", expected " ++ expected
  | .invalidValue found expected => "invalid value: " ++ found.describe ++ ", expected " ++ expected
  | .invalidLength n expected => "invalid length " ++ toString n ++ ", expected " ++ expected
  | .unknownVariant name known => "unknown variant `" ++ name ++ "`, " ++ listNames known
  | .unknownField name known => "unknown field `" ++ name ++ "`, " ++ listNames known
  | .missingField name => "missing field `" ++ name ++ "`"
  | .duplicateField name => "duplicate field `" ++ name ++ "`"
  | .other reason => reason

/-! ## Records -/

/-- Whether a field of a record may be left out. -/
inductive Need where
  /-- The field has to be given. -/
  | required
  /-- The field may be left out of a record, and has to be given in a list. -/
  | nullable
  /-- The field may be left out. -/
  | defaulted
deriving DecidableEq, Repr

/-- The title of a record with its number of fields. -/
def sizedTitle (title : String) (fields : Nat) : String :=
  title ++ " with " ++ toString fields ++ (if fields = 1 then " element" else " elements")

end ChainBroker
