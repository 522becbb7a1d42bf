import Provision.Document
import Provision.Json.Tree

/-! Reading JSON text as a document: numbers in range, whole characters, bounded nesting. -/

namespace Provision

/-- Digits alone are an integer as far as 64 bits go; every other numeral is a double. -/
def Number.ofNumeral? (n : Numeral) : Option Number :=
  let (significand, power) := n.reduced
  let value : Int := if n.negative then -significand else significand
  -- A minus sign in front of zero needs a double.
  if n.isWhole ∧ power = 0 ∧ ¬(n.negative ∧ significand = 0) ∧ -9223372036854775808 ≤ value then
    Number.ofInt? value
  else n.toScaled.bind Number.ofFloat?

namespace Document

mutual

/-- The document of a tree whose arrays and objects nest less deeply than the given room. -/
def ofTree? (room : Nat) : Json.Tree → Option Document
  | .null => some null
  | .bool b => some (bool b)
  | .number n => (Number.ofNumeral? n).map number
  | .text pieces => (Json.string? pieces).map string
  -- Scalars need no room, so only what nests can run out of it.
  | .array items => if room ≤ 1 then none else (ofTrees? (room - 1) items).map array
  | .object members => if room ≤ 1 then none else (ofMembers? (room - 1) members).map ofFields

/-- The documents of trees in a row. -/
def ofTrees? (room : Nat) : List Json.Tree → Option (List Document)
  | [] => some []
  | tree :: rest => do return (← ofTree? room tree) :: (← ofTrees? room rest)

/-- The fields of members in written order. -/
def ofMembers? (room : Nat) : List (List Json.Piece × Json.Tree) → Option (List (String × Document))
  | [] => some []
  | (key, tree) :: rest => do
    return ((← Json.string? key), (← ofTree? room tree)) :: (← ofMembers? room rest)

end

/-- Arrays and objects may nest 127 deep. -/
def nestingRoom : Nat := 128

/-- The document that a JSON text denotes. -/
def parse? (text : String) : Option Document :=
  (Json.Tree.parse? text).bind (ofTree? nestingRoom)

end Document

end Provision
