import Provision.Value
import Provision.Cidr

/-! Attribute types say which values an attribute may hold, and
how a value falls short of its type. -/

namespace Provision

/-- A type of attributes. -/
inductive AttributeType where
  | string
  | int
  | float
  | bool
  | oneOf (variants : List String)
  /-- A named type whose check gives the reason why a value does not belong to it. -/
  | custom (name : String) (reason? : Value → Option String)
  | list (items : AttributeType)
  | map (values : AttributeType)

namespace AttributeType

/-- Integers above zero. -/
def positiveInt : AttributeType :=
  custom "PositiveInt" fun
    | .int n => if 0 < n then none else some "Value must be positive"
    | _ => some "Expected integer"

/-- Address blocks. -/
def cidr : AttributeType :=
  custom "Cidr" fun
    | .string s => (Cidr.fault? s).map Cidr.Fault.message
    | _ => some "Expected string"

/-- Whether an object is paid in advance. -/
def chargingMode : AttributeType := oneOf ["prePaid", "postPaid"]

/-- Tags are texts under keys. -/
def tags : AttributeType := map string

end AttributeType

/-- How a value, or the attributes of a resource, fall short. -/
inductive TypeFault where
  | mismatch (expected got : String)
  | unknownVariant (value : String) (variants : List String)
  | rejected (reason : String)
  | missing (name : String)
  | computed (name : String)
  | inList (index : Nat) (fault : TypeFault)
  | inMap (key : String) (fault : TypeFault)
deriving DecidableEq

namespace TypeFault

/-- The text of a fault, with the way to the value that is at fault. -/
def message : TypeFault → String
  | mismatch expected got => s!"Type mismatch: expected {expected}, got {got}"
  | unknownVariant value variants =>
    s!"Invalid enum variant '{value}', expected one of: " ++ String.intercalate ", " variants
  | rejected reason => s!"Validation failed: {reason}"
  | missing name => s!"Required attribute '{name}' is missing"
  | computed name => s!"Attribute '{name}' is computed and cannot be set"
  | inList index fault => s!"List item at index {index}: {fault.message}"
  | inMap key fault => s!"Map value for key '{key}': {fault.message}"

end TypeFault

/-- The name of the kind of value that a value is. -/
def Value.kindName : Value → String
  | .string _ => "String"
  | .int _ => "Int"
  | .float _ => "Float"
  | .bool _ => "Bool"
  | .list _ => "List"
  | .map _ => "Map"

namespace AttributeType

/-- The name of a type. -/
def name : AttributeType → String
  | string => "String"
  | int => "Int"
  | float => "Float"
  | bool => "Bool"
  | oneOf variants => "Enum(" ++ String.intercalate " | " variants ++ ")"
  | custom name _ => name
  | list items => s!"List<{items.name}>"
  | map values => s!"Map<{values.name}>"

/-- The first fault among items, with its index. -/
def firstItem (check : Value → Option TypeFault) : (index : Nat) → List Value → Option TypeFault
  | _, [] => none
  | index, item :: rest =>
    match check item with
    | some fault => some (.inList index fault)
    | none => firstItem check (index + 1) rest

/-- The first fault among entries, with its key. -/
def firstEntry (check : Value → Option TypeFault) : List (String × Value) → Option TypeFault
  | [] => none
  | (key, value) :: rest =>
    match check value with
    | some fault => some (.inMap key fault)
    | none => firstEntry check rest

/-- How a value falls short of a type, if it does; an integer is good for a float. -/
def fault? : AttributeType → Value → Option TypeFault
  | string, .string _ => none
  | int, .int _ => none
  | float, .float _ => none
  | float, .int _ => none
  | bool, .bool _ => none
  | oneOf variants, .string s => if s ∈ variants then none else some (.unknownVariant s variants)
  -- A custom type gives its own reason, even if the value is of another kind.
  | custom _ reason?, value => (reason? value).map .rejected
  | list items, .list values => firstItem items.fault? 0 values
  | map values, .map entries => firstEntry values.fault? entries
  | type, value => some (.mismatch type.name value.kindName)

end AttributeType

end Provision
