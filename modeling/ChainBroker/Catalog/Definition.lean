import ChainBroker.Catalog.Basic
import ChainBroker.Json.Decode

/-!
# Definitions of services

A service is defined by a JSON file. Of a service only the name and of a plan only the name and the
image have to be given to be read; ids that are left out are supplied by the loader. What is read is
not yet usable: `ServiceDefinition.toService` refuses a definition with a blank name, without plans,
or with a plan that has no image, no ports or a text that is no port, and it reports the first of
these faults in the order of the file.
-/

namespace ChainBroker

open Json (Shape Reader)

/-- A plan as a file defines it. -/
structure PlanDefinition where
  /-- The id, unless it is left to the loader. -/
  id : Option String
  name : String
  /-- What the plan is. -/
  description : String
  /-- The reference of the image. -/
  image : String
  /-- The ports as texts. -/
  ports : List String
deriving DecidableEq, Repr

/-- A service as a file defines it. -/
structure ServiceDefinition where
  /-- The id, unless it is left to the loader. -/
  id : Option String
  name : String
  /-- What the service is. -/
  description : String
  /-- The name for display. -/
  displayName : String
  tags : List String
  plans : List PlanDefinition
deriving DecidableEq, Repr

/-! ## Reading -/

namespace PlanDefinition

/-- The fields that have been read. -/
structure Draft where
  id : Option (Option String) := none
  name : Option String := none
  description : Option String := none
  /-- The reference of the image. -/
  image : Option String := none
  ports : Option (List String) := none

/-- The fields of a plan. -/
def shape : Shape Draft where
  title := "struct PlanFile"
  fields :=
    [.of "id" .nullable (Json.nullable Json.textValue) Draft.id fun d x => { d with id := some x },
      .of "name" .required Json.textValue Draft.name fun d x => { d with name := some x },
      .of "description" .defaulted Json.textValue Draft.description
        fun d x => { d with description := some x },
      .of "image" .required Json.textValue Draft.image fun d x => { d with image := some x },
      .of "ports" .defaulted (Json.listOf Json.textValue) Draft.ports
        fun d x => { d with ports := some x }]

/-- Reads a plan. -/
def reader : Reader PlanDefinition := fun s =>
  (Json.recordOf shape {} s).map fun t =>
    t.map fun d =>
      { id := d.id.getD none, name := d.name.getD "", description := d.description.getD ""
        image := d.image.getD "", ports := d.ports.getD [] }

end PlanDefinition

namespace ServiceDefinition

/-- The fields that have been read. -/
structure Draft where
  id : Option (Option String) := none
  name : Option String := none
  description : Option String := none
  /-- The name to display. -/
  displayName : Option String := none
  tags : Option (List String) := none
  plans : Option (List PlanDefinition) := none

/-- The fields of a service. -/
def shape : Shape Draft where
  title := "struct ServiceFile"
  fields :=
    [.of "id" .nullable (Json.nullable Json.textValue) Draft.id fun d x => { d with id := some x },
      .of "name" .required Json.textValue Draft.name fun d x => { d with name := some x },
      .of "description" .defaulted Json.textValue Draft.description
        fun d x => { d with description := some x },
      .of "display_name" .defaulted Json.textValue Draft.displayName
        fun d x => { d with displayName := some x },
      .of "tags" .defaulted (Json.listOf Json.textValue) Draft.tags
        fun d x => { d with tags := some x },
      .of "plans" .defaulted (Json.listOf PlanDefinition.reader) Draft.plans
        fun d x => { d with plans := some x }]

/-- Reads a service. -/
def reader : Reader ServiceDefinition := fun s =>
  (Json.recordOf shape {} s).map fun t =>
    t.map fun d =>
      { id := d.id.getD none, name := d.name.getD "", description := d.description.getD ""
        displayName := d.displayName.getD "", tags := d.tags.getD [], plans := d.plans.getD [] }

end ServiceDefinition

/-! ## Faults -/

/-- What is wrong with a plan. -/
inductive PlanFault where
  /-- It has no image. -/
  | noImage
  /-- It has no ports. -/
  | noPorts
  /-- One of its ports is none. -/
  | badPort (spec : String) (defect : Port.Defect)
deriving DecidableEq, Repr

/-- Why the definitions of a directory make up no catalog. -/
inductive CatalogFault where
  /-- No directory is named. -/
  | noDirectory
  /-- The directory cannot be listed. -/
  | unlistable (dir : String) (cause : OsError)
  /-- The directory holds no definitions. -/
  | empty (dir : String)
  /-- A file holds no definition. -/
  | unparseable (path : String) (cause : Json.Fault)
  /-- A service has no name. -/
  | noName (path : String)
  /-- A service has no plans. -/
  | noPlans (path service : String)
  /-- A plan is not usable. -/
  | badPlan (path service plan : String) (fault : PlanFault)
  /-- Two plans of a service have one id. -/
  | duplicatePlan (path id : String)
  /-- Two services have one id. -/
  | duplicateService (path id : String)
deriving DecidableEq, Repr

/-- The fault of a plan, as the end of a sentence. -/
def PlanFault.message : PlanFault → String
  | .noImage => " has no image"
  | .noPorts => " exposes no ports"
  | .badPort spec defect => ": " ++ (Failure.ofPort (spec, defect)).message

/-- The fault in words. -/
def CatalogFault.message : CatalogFault → String
  | .noDirectory => "Service Directory Missing"
  | .unlistable dir cause => "Error opening service directory " ++ dir ++ ": " ++ cause.message
  | .empty dir => "service directory is empty: " ++ dir
  | .unparseable path cause => "Error parsing service file " ++ path ++ ": " ++ cause.message
  | .noName path => "service in " ++ path ++ " has no name"
  | .noPlans path service => "service " ++ service ++ " in " ++ path ++ " has no plans"
  | .badPlan path service plan fault =>
    "plan " ++ plan ++ " of service " ++ service ++ " in " ++ path ++ fault.message
  | .duplicatePlan path id => "duplicate plan id " ++ id ++ " in " ++ path
  | .duplicateService path id => "duplicate service id " ++ id ++ " in " ++ path

/-- The failure that the fault leads to. -/
def CatalogFault.failure (fault : CatalogFault) : Failure := .catalog fault.message

/-! ## Services from definitions -/

/-- What is wrong with a plan, if anything is. -/
def PlanDefinition.fault? (plan : PlanDefinition) : Option PlanFault :=
  if Text.isBlankText plan.image then some .noImage
  else if plan.ports = [] then some .noPorts
  else match Port.parseAll plan.ports with
    | .ok _ => none
    | .error (spec, defect) => some (.badPort spec defect)

/-- The plan, with an id that is used if it has none. -/
def PlanDefinition.toPlan (plan : PlanDefinition) (freshId : String) : Plan where
  id := plan.id.getD freshId
  name := plan.name
  description := plan.description
  image := plan.image
  ports := plan.ports

/-- The plans under their ids, each of which may occur once. The plan at place `index` gets the
fresh id of that place if it has none. -/
def plansOf (path service : String) (freshIds : Nat → String) :
    (index : Nat) → (seen : List (String × Plan)) → List PlanDefinition →
      Except CatalogFault (List (String × Plan))
  | _, seen, [] => .ok seen
  | index, seen, definition :: definitions =>
    match definition.fault? with
    | some fault => .error (.badPlan path service definition.name fault)
    | none =>
      let plan := definition.toPlan (freshIds index)
      if (seen.lookup plan.id).isSome then .error (.duplicatePlan path plan.id)
      else plansOf path service freshIds (index + 1) (seen ++ [(plan.id, plan)]) definitions

/-- The service. Fresh ids are used for what has no id: the first one for the service itself, the
following ones for its plans. -/
def ServiceDefinition.toService (path : String) (freshIds : Nat → String)
    (d : ServiceDefinition) : Except CatalogFault Service :=
  if Text.isBlankText d.name then .error (.noName path)
  else if d.plans = [] then .error (.noPlans path d.name)
  else
    match plansOf path d.name (fun index => freshIds (index + 1)) 0 [] d.plans with
    | .error fault => .error fault
    | .ok plans =>
      .ok
        { id := d.id.getD (freshIds 0), name := d.name, description := d.description
          tags := d.tags, displayName := d.displayName, plans }

end ChainBroker
