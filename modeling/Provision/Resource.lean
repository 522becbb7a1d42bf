import Provision.Value

/-! Resources are what a configuration asks for; states are what the remote side has. -/

namespace Provision

/-- A resource by its type and the name that the configuration gives it. -/
structure ResourceId where
  type : String
  name : String
deriving DecidableEq

/-- The text of a resource's identity. -/
def ResourceId.text (id : ResourceId) : String := s!"{id.type}.{id.name}"

/-- A remote object by its kind, where it is read, and its identifier there. -/
structure Descriptor where
  kind : String
  template : String
  id : String
deriving DecidableEq

/-- The text of a remote object. -/
def Descriptor.text (d : Descriptor) : String := s!"{d.kind} ({d.id})"

/-- A resource as a configuration wants it. -/
structure Resource where
  id : ResourceId
  attributes : Attributes

namespace Resource

/-- The value of an attribute. -/
def get? (r : Resource) (name : String) : Option Value := r.attributes.get? name

/-- The text of an attribute that is a string. -/
def string? (r : Resource) (name : String) : Option String := (r.get? name).bind Value.string?

/-- The truth of an attribute that is a boolean or its name. -/
def bool? (r : Resource) (name : String) : Option Bool :=
  match r.get? name with
  | some (.bool b) => some b
  | some (.string "true") => some true
  | some (.string "false") => some false
  | _ => none

end Resource

/-- A remote object as the last read of it found it. -/
structure State where
  id : ResourceId
  identifier : Option String
  attributes : Attributes
  present : Bool

namespace State

/-- The state of an object that is not there. -/
def notFound (id : ResourceId) : State := ⟨id, none, Dict.empty, false⟩

/-- The state of an object that is there. -/
def found (id : ResourceId) (identifier : String) (attributes : Attributes) : State :=
  ⟨id, some identifier, attributes, true⟩

end State

end Provision
