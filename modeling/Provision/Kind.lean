import Provision.Body.Attributes
import Provision.Envelope
import Provision.Path.Extract
import Provision.Poll
import Provision.Request.Template

/-! A kind of object is described by its schema, its endpoints and the bodies of its requests. -/

namespace Provision

/-- Where and how a service is called, before names in the path are replaced. -/
structure Endpoint where
  method : Method
  path : String
  successCodes : List Nat := method.successCodes
deriving DecidableEq

/-- Attributes that one request updates together, and the poll that may follow it. -/
structure UpdateGroup where
  attributes : List String
  endpoint : Endpoint
  poll : Option PollSpec := none
deriving DecidableEq

/-- Whether a group has one of the attributes that changed. -/
def UpdateGroup.touches (group : UpdateGroup) (changed : List String) : Bool :=
  group.attributes.any changed.contains

/-- What becomes of a new object that never got ready. -/
inductive Compensation where
  /-- It is left in place. -/
  | orphan
  /-- One removal is tried, whatever comes of it. -/
  | remove
deriving DecidableEq

/-- Where an order is looked up that the answer to a creation does not name. -/
structure OrderLookup where
  endpoint : Endpoint
  orderPath : String
deriving DecidableEq

/-- How objects of a kind are paid in advance. -/
structure BillingTerms where
  /-- The attribute that holds the charging mode. -/
  modeAttribute : String := "charging_mode"
  /-- Where the answer to a creation names the order. -/
  orderPath : String
  lookup : Option OrderLookup := none
deriving DecidableEq

/-- How objects of a kind are tagged. -/
structure Tagging where
  /-- The attribute that holds the tags. -/
  name : String := "tags"
  actionPath : String
  /-- Where tags appear when an object is read. -/
  readPath : Option String := none
deriving DecidableEq

/-- How one object is picked from a listing. -/
structure Selector where
  listPath : String
  idField : String
deriving DecidableEq

/-- The first of some items whose identifier renders to the given one. -/
def Selector.firstMatch (idField identifier : String) :
    List Document → Except Path.Error (Option Document)
  | [] => .ok none
  | item :: rest => do
    if (← Path.extractText item idField) = some identifier then return some item
    else firstMatch idField identifier rest

/-- The item of a listing with an identifier. -/
def Selector.select (s : Selector) (listing : Document) (identifier : String) :
    Except Path.Error (Option Document) := do
  let path ← Path.parse s.listPath
  match path.evaluate listing with
  | some (.array items) => firstMatch s.idField identifier items
  -- Where there is no list, nothing is listed.
  | _ => return none

/-- How objects of a kind are made, read, changed and removed. -/
structure Blueprint where
  /-- The service that the endpoints belong to. -/
  service : String
  create : Endpoint
  /-- Where the answer to a creation names the new object. -/
  idPath : String
  read : Endpoint
  delete : Endpoint
  /-- Set for kinds that can only be read as a listing. -/
  selector : Option Selector := none
  statusPath : Option String := none
  /-- Statuses of objects that are as good as gone. -/
  goneStates : List String := []
  createPoll : Option PollSpec := none
  updateGroups : List UpdateGroup := []
  deletePoll : Option PollSpec := none
  notFound : NotFoundRule := {}
  /-- Headers that go with every request. -/
  headers : List (String × String) := []
  billing : Option BillingTerms := none
  tagging : Option Tagging := none
  compensation : Compensation := .orphan
deriving DecidableEq

/-- A kind of object. -/
structure Kind where
  name : String
  schema : Schema
  blueprint : Blueprint
  /-- The body of a request for a purpose, if it has one. -/
  body : Purpose → Resource → Except Failure (Option Document)

/-- The charging mode of what is paid in advance. -/
def prepaid : String := "prePaid"

end Provision
