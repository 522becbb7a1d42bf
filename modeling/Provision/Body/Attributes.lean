import Provision.Body
import Provision.Schema
import Provision.Resource
import Provision.Text

/-! A schema alone gives a body: each attribute is placed at
the dotted position of its request key. -/

namespace Provision

/-- What a body is for: creating an object, or updating some of its attributes. -/
inductive Purpose where
  | create
  | update (attributes : List String)
deriving DecidableEq

namespace Body

/-- Fields with a change inside the first object under a key, which is added when there is none. -/
def inside (key : String) (change : List Field → List Field) : List Field → List Field
  | [] => [Field.optional key (.object (change []))]
  | ⟨k, optional, .object children⟩ :: rest =>
    if k = key then ⟨k, optional, .object (change children)⟩ :: rest
    else ⟨k, optional, .object children⟩ :: inside key change rest
  -- What stands under the key but is no object is passed over.
  | field :: rest => field :: inside key change rest

/-- Fields with a value placed at a position that leads through nested objects. -/
def place (value : FieldValue) (optional : Bool) : List String → List Field → List Field
  | [], fields => fields
  | [key], fields => fields ++ [⟨key, optional, value⟩]
  | key :: rest, fields => inside key (place value optional rest) fields

/-- The keys on the way to the position of a dotted key. -/
def position (key : String) : List String := (Text.split '.' key.toList).map String.ofList

/-- Whether a purpose takes in an attribute. -/
def takes : Purpose → String → Bool
  | .create, _ => true
  | .update names, name => names.contains name

/-- The fields of attributes in name order; unset ones are left out unless required. -/
def fields (s : Schema) (attributes : Attributes) (purpose : Purpose) : List Field :=
  s.list.foldl (fun placed a =>
    match a.requestKey with
    | none => placed
    | some key =>
      if takes purpose a.name then
        place (FieldValue.ofAttribute (attributes.get? a.name)) (!a.required) (position key) placed
      else placed) []

/-- The body that a schema gives a resource. -/
def ofSchema (s : Schema) (purpose : Purpose) (resource : Resource) : Document :=
  Document.ofBody (fields s resource.attributes purpose)

end Body

end Provision
