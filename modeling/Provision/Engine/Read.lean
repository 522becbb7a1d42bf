import Provision.Engine

/-! Reading turns the document of an object into its state. -/

namespace Provision.Engine

/-- The attributes of a document, with its tags where the kind reads them. -/
def attributesOf (e : Engine σ) (document : Document) : Except Failure Attributes := do
  let attributes ← (Path.flatten e.kind.schema document).mapError .path
  match e.blueprint.tagging with
  | some { name, readPath := some expression, .. } =>
    -- Tags are read as a list of objects, which is no value of an attribute by itself.
    let path ← (Path.parse expression).mapError .path
    let listed := ((path.evaluate document).bind Document.array?).getD []
    return attributes.insert name (.map (Tags.parse listed).entries)
  | _ => return attributes

/-- The state of an object. -/
def read (e : Engine σ) (id : ResourceId) (identifier : String) : Run σ State := do
  match ← e.fetch identifier with
  | some document => return .found id identifier (← e.attributesOf document)
  | none => return .notFound id

/-- Attributes that are set but never read stay as they were set. -/
def carryOver (e : Engine σ) (state : State) (resource : Resource) : State :=
  { state with
    attributes := e.kind.schema.list.foldl (fun attributes a =>
      -- What can be read is never taken over, not even if the document lacked it.
      if a.readPath.isSome || a.computed then attributes
      else
        match resource.get? a.name with
        | some value => attributes.insertNew a.name value
        | none => attributes) state.attributes }

end Provision.Engine
