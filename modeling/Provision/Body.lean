import Provision.Value

/-! Request bodies are built from fields that know whether they may be left out. -/

namespace Provision

/-- A value under a key, and whether the key is left out when the value is unset. -/
structure Slot (α : Type) where
  key : String
  optional : Bool
  value : α
deriving Inhabited

/-- What a field of a body holds. -/
inductive FieldValue where
  /-- Nothing was set. -/
  | absent
  | scalar (value : Document)
  | object (fields : List (Slot FieldValue))
  | list (items : List FieldValue)
deriving Inhabited

/-- A field of a body. -/
abbrev Field := Slot FieldValue

namespace Field

/-- A field that is left out when unset. -/
def optional (key : String) (value : FieldValue) : Field := ⟨key, true, value⟩

/-- A field that is null when unset. -/
def required (key : String) (value : FieldValue) : Field := ⟨key, false, value⟩

end Field

namespace FieldValue

/-- A text that may be unset. -/
def ofString? : Option String → FieldValue
  | some s => scalar (.string s)
  | none => absent

/-- A truth value that may be unset. -/
def ofBool? : Option Bool → FieldValue
  | some b => scalar (.bool b)
  | none => absent

mutual

/-- The field value of an attribute value; maps become objects of optional fields in key order. -/
def ofValue : Value → FieldValue
  | .list items => list (ofItems items)
  | .map entries => object (ofEntries entries)
  | value => scalar value.toDocument

/-- The field values of items. -/
def ofItems : List Value → List FieldValue
  | [] => []
  | item :: rest => ofValue item :: ofItems rest

/-- The optional fields of entries. -/
def ofEntries : List (String × Value) → List Field
  | [] => []
  | (key, value) :: rest => Field.optional key (ofValue value) :: ofEntries rest

end

/-- The field value of an attribute that may be unset. -/
def ofAttribute : Option Value → FieldValue
  | some value => ofValue value
  | none => absent

mutual

/-- The document of a field value, or none when it is unset; an
object with nothing set is itself unset. -/
def render : FieldValue → Option Document
  | absent => none
  | scalar d => some d
  | object fields =>
    let rendered := renderFields fields
    -- An object that has no fields to begin with was set to that, and is kept.
    if rendered.isEmpty && !fields.isEmpty then none else some (Document.ofFields rendered)
  | list items => some (.array (renderItems items))

/-- The documents of the items that are set. -/
def renderItems : List FieldValue → List Document
  | [] => []
  | item :: rest =>
    match item.render with
    | some d => d :: renderItems rest
    | none => renderItems rest

/-- What fields put under their keys, in order; a required field that is unset puts null. -/
def renderFields : List (Slot FieldValue) → List (String × Document)
  | [] => []
  | ⟨key, optional, value⟩ :: rest =>
    match value.render with
    | some d => (key, d) :: renderFields rest
    | none => if optional then renderFields rest else (key, .null) :: renderFields rest

end

end FieldValue

/-- The object of a list of fields, of which the last under a key counts. -/
def Document.ofBody (fields : List Field) : Document :=
  .ofFields (FieldValue.renderFields fields)

end Provision
