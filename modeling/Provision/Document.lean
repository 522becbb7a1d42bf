import Provision.Binary64
import Provision.Dict

/-! Documents are the values that JSON text denotes: objects
without repeated keys, listed in key order. -/

namespace Provision

/-- A number of a document: an integer of 64 bits, signed or unsigned, or a finite double. -/
inductive Number where
  | int (value : Int) (low : -9223372036854775808 ≤ value) (high : value < 18446744073709551616)
  | float (value : Binary64) (finite : value.isFinite = true)
deriving DecidableEq

/-- A document. -/
inductive Document where
  | null
  | bool (value : Bool)
  | number (value : Number)
  | string (value : String)
  | array (items : List Document)
  | object (fields : List (String × Document))

namespace Number

/-- The number of an integer: the integer itself when 64 bits hold it, else the nearest double. -/
def ofInt? (n : Int) : Option Number :=
  if range : -9223372036854775808 ≤ n ∧ n < 18446744073709551616 then
    some (.int n range.1 range.2)
  else none

/-- The number of a double; infinities and what is no number have none. -/
def ofFloat? (x : Binary64) : Option Number :=
  if finite : x.isFinite = true then some (.float x finite) else none

/-- Numeric equality within a representation: an integer never agrees with a double. -/
def agrees : Number → Number → Bool
  | .int a _ _, .int b _ _ => a == b
  | .float x _, .float y _ => x.agrees y
  | _, _ => false

end Number

namespace Document

instance : Inhabited Document := ⟨null⟩

/-- The document of an integer of 64 bits; others read as null. -/
def ofInt (n : Int) : Document := ((Number.ofInt? n).map number).getD null

/-- The document of a double; infinities and what is no number read as null. -/
def ofFloat (x : Binary64) : Document := ((Number.ofFloat? x).map number).getD null

/-- An object from fields of which the last under a key counts. -/
def ofFields (fields : List (String × Document)) : Document := object (Dict.ofList fields).entries

/-- Whether a document is null. -/
def isNull : Document → Bool
  | null => true
  | _ => false

/-- The field of an object. -/
def get? (key : String) : Document → Option Document
  | object fields => Entries.get? key fields
  | _ => none

/-- The text of a string. -/
def string? : Document → Option String
  | string s => some s
  | _ => none

/-- The items of an array. -/
def array? : Document → Option (List Document)
  | array items => some items
  | _ => none

/-- An object with one field more, or with another value of a
field; other documents stay as they are. -/
def set (d : Document) (key : String) (value : Document) : Document :=
  match d with
  | object fields => object (Entries.insert key value fields)
  | d => d

mutual

/-- Equality of documents, by which both zeros agree and an integer never agrees with a double. -/
def agrees : Document → Document → Bool
  | null, null => true
  | bool a, bool b => a == b
  | number a, number b => a.agrees b
  | string a, string b => a == b
  | array a, array b => agreeItems a b
  | object a, object b => agreeFields a b
  | _, _ => false

/-- Lists agree item by item. -/
def agreeItems : List Document → List Document → Bool
  | [], [] => true
  | a :: as, b :: bs => a.agrees b && agreeItems as bs
  | _, _ => false

/-- Fields agree when they have the same keys and agreeing values. -/
def agreeFields : List (String × Document) → List (String × Document) → Bool
  | [], [] => true
  | (k, a) :: as, (l, b) :: bs => k == l && a.agrees b && agreeFields as bs
  | _, _ => false

end

end Document

end Provision
