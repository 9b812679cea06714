import ChainBroker.Failure
import ChainBroker.Json.Value

/-!
# The catalog

A catalog offers services, and every service has plans, each of which is an image with the ports
that it listens on. Services and plans are found by their ids. Ids are unique: of several services
with one id the last one counts, and so it is for the plans of a service.

The entries of a catalog have no order of their own. `Catalog.offerings` lists what is offered in
the order of the names.
-/

namespace ChainBroker

/-- A way to run a service: an image and its ports. -/
structure Plan where
  id : String
  name : String
  /-- What the plan is. -/
  description : String
  /-- The reference of the image. -/
  image : String
  /-- The ports that the image listens on, as texts. -/
  ports : List String
deriving DecidableEq, Repr

/-- The number of the first port, to which contracts are deployed. -/
def Plan.primaryPort? (plan : Plan) : Option String :=
  match plan.ports with
  | [] => none
  | spec :: _ => (Port.parse spec).toOption.map Port.digits

/-- A service and its plans, each under the id by which it is found. -/
structure Service where
  id : String
  name : String
  /-- What the service is. -/
  description : String
  tags : List String
  /-- The name for display. -/
  displayName : String
  /-- The plans with their ids, each id once. -/
  plans : List (String × Plan)
deriving DecidableEq, Repr

/-- Puts a value under an id: in the place of the one that is there, or else at the end. -/
def upsert {α : Type} (id : String) (value : α) : List (String × α) → List (String × α)
  | [] => [(id, value)]
  | entry :: rest => if entry.1 = id then (id, value) :: rest else entry :: upsert id value rest

/-- The values under their ids; of several values with one id the last one stays. -/
def byId {α : Type} (id : α → String) (l : List α) : List (String × α) :=
  l.foldl (fun entries a => upsert (id a) a entries) []

/-- The plan under an id. -/
def Service.plan (service : Service) (planId : String) : Except Failure Plan :=
  match service.plans.lookup planId with
  | some plan => .ok plan
  | none => .error (.planNotFound planId)

/-- The services on offer, each under its id. -/
structure Catalog where
  /-- The services with their ids, each id once. -/
  entries : List (String × Service)
deriving DecidableEq, Repr

namespace Catalog

/-- The catalog of a list of services. -/
def ofList (services : List Service) : Catalog := ⟨byId Service.id services⟩

/-- The services. -/
def services (c : Catalog) : List Service := c.entries.map Prod.snd

/-- The number of services. -/
def size (c : Catalog) : Nat := c.entries.length

/-- The service under an id. -/
def service (c : Catalog) (serviceId : String) : Except Failure Service :=
  match c.entries.lookup serviceId with
  | some service => .ok service
  | none => .error (.serviceNotFound serviceId)

/-- The plan under the ids of a service and of one of its plans. -/
def plan (c : Catalog) (serviceId planId : String) : Except Failure Plan :=
  match c.service serviceId with
  | .ok service => service.plan planId
  | .error e => .error e

end Catalog

/-! ## Offerings -/

/-- What is told of a plan. -/
structure PlanOffering where
  id : String
  name : String
  /-- What the plan is. -/
  description : String
deriving DecidableEq, Repr

/-- What is told of a service. -/
structure Offering where
  id : String
  name : String
  /-- What the service is. -/
  description : String
  tags : List String
  /-- The name for display. -/
  displayName : String
  plans : List PlanOffering
deriving DecidableEq, Repr

/-- What is told of the plan. -/
def Plan.offering (plan : Plan) : PlanOffering :=
  { id := plan.id, name := plan.name, description := plan.description }

/-- What is told of the service, with its plans in the order of their names. -/
def Service.offering (service : Service) : Offering where
  id := service.id
  name := service.name
  description := service.description
  tags := service.tags
  displayName := service.displayName
  plans := (service.plans.map fun entry => entry.2.offering).mergeSort (·.name ≤ ·.name)

/-- What the catalog offers, in the order of the names. -/
def Catalog.offerings (c : Catalog) : List Offering :=
  (c.services.map Service.offering).mergeSort (·.name ≤ ·.name)

/-- The JSON form; every plan is free. -/
def PlanOffering.toJson (plan : PlanOffering) : Json :=
  .record
    [("id", .text plan.id), ("name", .text plan.name), ("description", .text plan.description),
      ("free", .bool true)]

/-- The JSON form; every service can be bound. -/
def Offering.toJson (offering : Offering) : Json :=
  .record
    [("id", .text offering.id), ("name", .text offering.name),
      ("description", .text offering.description), ("bindable", .bool true),
      ("tags", Json.texts offering.tags),
      ("metadata", .record [("display_name", .text offering.displayName)]),
      ("plans", .list (offering.plans.map PlanOffering.toJson))]

end ChainBroker
