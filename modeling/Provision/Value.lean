import Provision.Document

/-! Attribute values are what configurations hold: documents
without nulls, with doubles of every kind. -/

namespace Provision

/-- An attribute value. -/
inductive Value where
  | string (value : String)
  | int (value : Int64)
  | float (value : Binary64)
  | bool (value : Bool)
  | list (items : List Value)
  | map (entries : List (String × Value))

/-- Attributes under their names. -/
abbrev Attributes := Dict Value

namespace Value

instance : Inhabited Value := ⟨bool false⟩

/-- The text of a string value. -/
def string? : Value → Option String
  | string s => some s
  | _ => none

/-- The number of an integer value. -/
def int? : Value → Option Int64
  | int n => some n
  | _ => none

/-- The truth value of a boolean. -/
def bool? : Value → Option Bool
  | bool b => some b
  | _ => none

/-- A signed integer of 64 bits stays one; other numbers become doubles. -/
def ofNumber : Number → Value
  | .int n _ _ => if n < 9223372036854775808 then int (Int64.ofInt n) else float (Binary64.ofInt n)
  | .float x _ => float x

mutual

/-- The value of a document, in which nulls at every depth are left out. -/
def ofDocument? : Document → Option Value
  | .null => none
  | .bool b => some (bool b)
  | .number n => some (ofNumber n)
  | .string s => some (string s)
  | .array items => some (list (ofItems items))
  | .object fields => some (map (ofFields fields))

/-- The values of items other than null. -/
def ofItems : List Document → List Value
  | [] => []
  | item :: rest =>
    match ofDocument? item with
    | some value => value :: ofItems rest
    | none => ofItems rest

/-- The values of fields other than null. -/
def ofFields : List (String × Document) → List (String × Value)
  | [] => []
  | (key, field) :: rest =>
    match ofDocument? field with
    | some value => (key, value) :: ofFields rest
    | none => ofFields rest

end

mutual

/-- The document of a value; a double that is not finite becomes null. -/
def toDocument : Value → Document
  | string s => .string s
  | int n => Document.ofInt n.toInt
  | float x => Document.ofFloat x
  | bool b => .bool b
  | list items => .array (toItems items)
  | map entries => .object (toFields entries)

/-- The documents of items. -/
def toItems : List Value → List Document
  | [] => []
  | item :: rest => item.toDocument :: toItems rest

/-- The documents of entries under their keys. -/
def toFields : List (String × Value) → List (String × Document)
  | [] => []
  | (key, value) :: rest => (key, value.toDocument) :: toFields rest

end

mutual

/-- Equality of values, by which both zeros agree and what is no number agrees with nothing. -/
def agrees : Value → Value → Bool
  | string a, string b => a == b
  | int a, int b => a == b
  | float x, float y => x.agrees y
  | bool a, bool b => a == b
  | list a, list b => agreeItems a b
  | map a, map b => agreeEntries a b
  -- An integer agrees with no double, whatever the numbers are.
  | _, _ => false

/-- Lists agree item by item. -/
def agreeItems : List Value → List Value → Bool
  | [], [] => true
  | a :: as, b :: bs => a.agrees b && agreeItems as bs
  | _, _ => false

/-- Maps agree when they have the same keys and agreeing values. -/
def agreeEntries : List (String × Value) → List (String × Value) → Bool
  | [], [] => true
  -- Entries are in key order, so those of one key stand at the same place.
  | (k, a) :: as, (l, b) :: bs => k == l && a.agrees b && agreeEntries as bs
  | _, _ => false

end

/-- Whether two optional values are both there and agree. -/
def agreesWith (value : Value) : Option Value → Bool
  | some other => value.agrees other
  | none => false

end Value

end Provision
