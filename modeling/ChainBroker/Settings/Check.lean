import ChainBroker.Failure
import ChainBroker.Url.Parse

/-!
# Checks of single settings

Each check names the setting in the failure that it leads to.
-/

namespace ChainBroker.Check

/-- Refuses the value of a setting. -/
def reject {α : Type} (field value reason : String) : Except Failure α :=
  .error (.settingRejected field value reason)

/-- A URL of the two schemes that can be fetched. -/
def url (field value : String) : Except Failure Url :=
  if value = "" then reject field value "URL cannot be empty"
  else match Url.parse value with
    | .error fault => reject field value ("Invalid URL format: " ++ fault.message)
    | .ok url =>
      let scheme := String.ofList url.scheme
      if scheme = "http" ∨ scheme = "https" then .ok url
      else reject field value ("Unsupported URL scheme: " ++ scheme)

/-- A path that an operating system can take. -/
def path (field value : String) : Except Failure Unit :=
  if value = "" then reject field value "Path cannot be empty"
  else if '\x00' ∈ value.toList then reject field value "Path contains null bytes"
  else .ok ()

/-- A number that is not too small. -/
def atLeast (minimum : Nat) (field : String) (value : Nat) : Except Failure Unit :=
  if value < minimum then
    reject field (toString value) ("Value must be at least " ++ toString minimum)
  else .ok ()

/-- A text that is not blank. -/
def notBlank (field value : String) : Except Failure Unit :=
  if Text.isBlankText value then reject field value "Value cannot be empty or whitespace-only"
  else .ok ()

/-- A setting that is there. -/
def present {α : Type} (field : String) : Option α → Except Failure α
  | some value => .ok value
  | none => .error (.settingMissing field)

end ChainBroker.Check
