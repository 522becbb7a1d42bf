import Provision.Schema.AttributeType

/-! Schemas say how each attribute of a resource travels and what it may hold. -/

namespace Provision

/-- An attribute: its type, and the keys it is sent under and read from. -/
structure Attribute where
  name : String
  type : AttributeType := .string
  required : Bool := false
  /-- A change of the attribute takes a new object. -/
  forceNew : Bool := false
  /-- The attribute is set by the remote side alone and never sent. -/
  computed : Bool := false
  default? : Option Value := none
  description : Option String := none
  /-- The dotted key that the attribute is sent under. -/
  requestKey : Option String := none
  /-- The path that the attribute is read from. -/
  readPath : Option String := none

namespace Attribute

/-- An attribute that is sent and read under one path. -/
def at_ (a : Attribute) (path : String) : Attribute :=
  { a with requestKey := some path, readPath := some path }

end Attribute

/-- A schema: attributes in the order of their distinct names. -/
structure Schema where
  resourceType : String
  description : Option String
  attributes : Dict Attribute
  /-- Each attribute is listed under its own name. -/
  named : ∀ entry ∈ attributes.entries, entry.2.name = entry.1

namespace Schema

/-- A schema without attributes. -/
def empty (resourceType : String) (description : Option String) : Schema :=
  ⟨resourceType, description, Dict.empty, fun _ member => nomatch member⟩

/-- A schema with one more attribute, in place of an earlier one of the same name. -/
def define (s : Schema) (a : Attribute) : Schema :=
  { s with
    attributes := s.attributes.insert a.name a
    named := fun entry member => by
      rcases Entries.mem_insert member with here | earlier
      · rw [here]
      · exact s.named entry earlier }

/-- The schema of a list of attributes. -/
def ofList (resourceType : String) (description : Option String)
    (attributes : List Attribute) : Schema :=
  attributes.foldl define (empty resourceType description)

/-- The attributes in name order. -/
def list (s : Schema) : List Attribute := s.attributes.entries.map (·.2)

/-- The attribute of a name. -/
def find? (s : Schema) (name : String) : Option Attribute := s.attributes.get? name

/-- The names of the attributes that take a new object. -/
def forceNewNames (s : Schema) : List String := (s.list.filter (·.forceNew)).map (·.name)

/-- Attributes left unset take their defaults. -/
def applyDefaults (s : Schema) (attributes : Attributes) : Attributes :=
  s.list.foldl (fun set a =>
    match a.default? with
    | some value => set.insertNew a.name value
    | none => set) attributes

/-- The fault of an attribute that is required but absent and has no default. -/
def missing? (a : Attribute) (attributes : Attributes) : Option TypeFault :=
  if a.required ∧ ¬attributes.contains a.name ∧ a.default?.isNone then some (.missing a.name)
  else none

/-- The fault of an attribute that is set; unknown attributes have none. -/
def setFault? (s : Schema) (name : String) (value : Value) : Option TypeFault :=
  match s.find? name with
  | none => none
  -- Nobody may set what the service computes, whatever the value.
  | some a => if a.computed then some (.computed name) else a.type.fault? value

/-- All faults of attributes: those missing in name order, then those set in name order. -/
def faults (s : Schema) (attributes : Attributes) : List TypeFault :=
  s.list.filterMap (missing? · attributes)
    ++ attributes.entries.filterMap fun (name, value) => s.setFault? name value

end Schema

end Provision
