import Provision.Kind
import Provision.Order
import Provision.Tags

/-! An engine drives the objects of one kind against a remote side,
and all its operations share these steps. -/

namespace Provision

/-- How long each operation may take. -/
structure Timeouts where
  create : Nat := Duration.ofMinutes 30
  update : Nat := Duration.ofMinutes 30
  delete : Nat := Duration.ofMinutes 30
deriving DecidableEq

/-- A kind of object, the remote side it lives on, and what its paths are filled with. -/
structure Engine (σ : Type) where
  kind : Kind
  remote : Remote σ
  billing : Option (BillingClient σ) := none
  params : Dict String := Dict.empty
  timeouts : Timeouts := {}

namespace Engine

/-- The blueprint of the engine's kind. -/
abbrev blueprint (e : Engine σ) : Blueprint := e.kind.blueprint

/-- The description of an object by its identifier. -/
def descriptor (e : Engine σ) (identifier : String) : Descriptor :=
  ⟨e.kind.name, e.blueprint.read.path, identifier⟩

/-- The request to an endpoint, for an object or for none in particular. -/
def request (e : Engine σ) (endpoint : Endpoint) (identifier : Option String) :
    Except Failure Request := do
  -- The identifier goes before a parameter of the same name.
  let params := match identifier with
    | some id => e.params.insert "id" id
    | none => e.params
  let path ← Template.resolve endpoint.path params
  return { method := endpoint.method
           path
           successCodes := endpoint.successCodes
           headers := e.blueprint.headers }

/-- Whether attributes ask for payment in advance. -/
def isPrepaid (e : Engine σ) (attributes : Attributes) : Bool :=
  match e.blueprint.billing with
  | some terms => (attributes.get? terms.modeAttribute).bind Value.string? = some prepaid
  | none => false

/-- A resource whose attributes have faults is refused with all of them. -/
def validate (e : Engine σ) (resource : Resource) : Except Failure Unit :=
  match e.kind.schema.faults resource.attributes with
  | [] => .ok ()
  | faults =>
    let messages := String.intercalate "; " (faults.map TypeFault.message)
    .error (.invalidConfiguration s!"{resource.id.text}: {messages}")

/-- The status of an object's document. -/
def status? (e : Engine σ) (d : Document) : Except Failure (Option String) :=
  match e.blueprint.statusPath with
  | some path => d.readText? path
  | none => .ok none

/-- The part of a read's answer that is about one object. -/
def select (e : Engine σ) (answer : Document) (identifier : String) :
    Except Failure (Option Document) :=
  match e.blueprint.selector with
  | some selector => (selector.select answer identifier).mapError .path
  | none => .ok (some answer)

/-- The document of an object; none when it is missing, not listed, or as good as gone. -/
def fetch (e : Engine σ) (identifier : String) : Run σ (Option Document) := do
  let request ← e.request e.blueprint.read (some identifier)
  match ← (e.remote.send request).attempt with
  | .error failure => if e.blueprint.notFound.covers failure then return none else Run.fail failure
  | .ok response =>
    match ← e.select response.body identifier with
    | none => return none
    | some document =>
      -- A service may go on to show an object that it has given up already.
      match ← e.status? document with
      | some status => if status ∈ e.blueprint.goneStates then return none else return some document
      | none => return some document

/-- One look at an object through its read endpoint. -/
def look (e : Engine σ) (identifier : String) : Run σ (Observation Document) := do
  match ← e.fetch identifier with
  | some document => return .found (← e.status? document) document
  | none => return .notFound

/-- A poll for an object, which fails unless it reaches its target. -/
def poll (e : Engine σ) (spec : PollSpec) (identifier : String) (deadline : Nat) :
    Run σ (Option Document) := do
  let report ← spec.run (e.look identifier) (some deadline)
  report.result (e.descriptor identifier).text

/-- The poll that follows a step, if there is one. -/
def pollIfAny (e : Engine σ) (spec : Option PollSpec) (identifier : String) (deadline : Nat) :
    Run σ Unit := do
  match spec with
  | some spec => do
    let _ ← e.poll spec identifier deadline
    return ()
  | none => return ()

/-- A request with a body, if there is one. -/
def withBody (request : Request) (body : Option Document) : Request :=
  match body with
  | some body => { request with body := some body }
  | none => request

/-- The body of a tag action. -/
def tagBody (action : String) (tags : List Document) : Document :=
  .object [("action", .string action), ("tags", .array tags)]

/-- One tag action, unless there is nothing to act on. -/
def tagAction (e : Engine σ) (tagging : Tagging) (identifier action : String)
    (tags : List Document) : Run σ Unit := do
  if tags.isEmpty then return ()
  else
    let endpoint : Endpoint :=
      { method := .post, path := tagging.actionPath, successCodes := [200, 204] }
    let request ← e.request endpoint (some identifier)
    let _ ← e.remote.send { request with body := some (tagBody action tags) }
    return ()

/-- The tag actions on the way from old to new tags, removals first. -/
def applyTags (e : Engine σ) (tagging : Tagging) (identifier : String) (old new : Option Value) :
    Run σ Unit := do
  -- A tag whose value changes is in both lists, so its removal has to come first.
  let (removed, added) := Tags.diff old new
  e.tagAction tagging identifier "delete" removed
  e.tagAction tagging identifier "create" added

/-- A removal by the kind's own request, or by taking back the subscription of what is prepaid. -/
def remove (e : Engine σ) (identifier : String) (isPrepaid : Bool) : Run σ Unit := do
  if isPrepaid then
    match e.billing with
    | some client => client.release identifier
    | none => Run.fail (.invalidConfiguration "prepaid resources need a billing client")
  else
    let request ← e.request e.blueprint.delete (some identifier)
    let _ ← e.remote.send request
    return ()

end Engine

end Provision
