import ChainBroker.Catalog.Definition
import ChainBroker.Files

/-!
# Loading a catalog

The catalog of a directory consists of the services that the files directly inside define whose
names end in `.json`. The files are taken in the order of their names, and the first one that cannot
be used makes the whole directory unusable. What else the directory holds, and the order in which it
is enumerated, do not matter.
-/

namespace ChainBroker.Catalog

/-- Ids for services and plans that have none: those of the file at place `n` are `freshIds n`. -/
abbrev FreshIds : Type := Nat → Nat → String

/-- Whether a file of this name defines a service: something precedes the ending. -/
def isDefinitionName (name : String) : Bool :=
  match name.toList.reverse with
  | 'n' :: 'o' :: 's' :: 'j' :: '.' :: _ :: _ => true
  | _ => false

/-- The files of a listing that define services, in the order of their names. -/
def definitionFiles (listing : Listing) : List (String × Except OsError Bytes) :=
  (listing.filterMap fun entry =>
    match entry.content with
    | .file bytes => if isDefinitionName entry.name then some (entry.name, bytes) else none
    | .other => none).mergeSort fun a b => a.1 ≤ b.1

/-- The service that a file defines. -/
def loadFile (path : String) (freshIds : Nat → String) (bytes : Except OsError Bytes) :
    Except Failure Service :=
  match textOf bytes with
  | .error cause => .error (.file cause)
  | .ok s =>
    match Json.decode ServiceDefinition.reader (Utf8.ofText s) with
    | .error cause => .error (CatalogFault.unparseable path cause).failure
    | .ok definition =>
      (definition.toService path freshIds).mapError CatalogFault.failure

/-- The services that files define, of which no two may have one id. -/
def loadFiles (dir : String) (freshIds : FreshIds) :
    (index : Nat) → (seen : List Service) → List (String × Except OsError Bytes) →
      Except Failure (List Service)
  | _, seen, [] => .ok seen
  | index, seen, (name, bytes) :: files =>
    let path := joinPath dir name
    match loadFile path (freshIds index) bytes with
    | .error e => .error e
    | .ok service =>
      if seen.any (·.id == service.id) then
        .error (CatalogFault.duplicateService path service.id).failure
      else loadFiles dir freshIds (index + 1) (seen ++ [service]) files

/-- The catalog of a directory, given what comes of listing it. -/
def load (dir : String) (freshIds : FreshIds) (listing : Except OsError Listing) :
    Except Failure Catalog :=
  if dir = "" then .error CatalogFault.noDirectory.failure
  else match listing with
    | .error cause => .error (CatalogFault.unlistable dir cause).failure
    | .ok listing =>
      match definitionFiles listing with
      | [] => .error (CatalogFault.empty dir).failure
      | files => (loadFiles dir freshIds 0 [] files).map Catalog.ofList

end ChainBroker.Catalog
