import Provision.Json.Tree
import Provision.Failure

/-! Services wrap the cause of an error in one of two envelopes, flat or nested. -/

namespace Provision

/-- The code and message that a service gives for an error. -/
structure Envelope where
  code : Option String
  message : Option String
deriving DecidableEq

namespace Envelope

/-- An optional text: null, or a string of whole characters. -/
def optionalText? : Json.Tree → Option (Option String)
  | .null => some none
  | .text pieces => (Json.string? pieces).map some
  | _ => none

/-- Members under decoded keys, if every key is made of whole characters. -/
def keyed? : List (List Json.Piece × Json.Tree) → Option (List (String × Json.Tree))
  | [] => some []
  | (key, tree) :: rest => do return ((← Json.string? key), tree) :: (← keyed? rest)

/-- The only value under a key; none inside when there is none,
and a failure when there are several. -/
def sole? (key : String) (members : List (String × Json.Tree)) : Option (Option Json.Tree) :=
  match members.filter (·.1 = key) with
  | [] => some none
  | [member] => some (some member.2)
  | _ => none

/-- The optional text under a key that may be left out. -/
def memberText? (key : String) (members : List (String × Json.Tree)) : Option (Option String) := do
  match ← sole? key members with
  | none => return none
  | some tree => optionalText? tree

/-- A code and a message under two keys of an object, or as the two items of an array. -/
def pair? (codeKey messageKey : String) : Json.Tree → Option Envelope
  | .object members => do
    let keyed ← keyed? members
    return ⟨← memberText? codeKey keyed, ← memberText? messageKey keyed⟩
  -- The two may also stand by their places alone, without keys.
  | .array [code, message] => do return ⟨← optionalText? code, ← optionalText? message⟩
  | _ => none

/-- The envelope inside an object's error, or inside an array of one item. -/
def nested? : Json.Tree → Option Envelope
  | .object members => do
    match ← sole? "error" (← keyed? members) with
    -- An error that is there and is no such pair fails the whole shape.
    | some tree => pair? "code" "message" tree
    | none => none
  | .array [tree] => pair? "code" "message" tree
  | _ => none

/-- The envelope of an error body; a body of any other shape has neither code nor message. -/
def parse (body : String) : Envelope :=
  match Json.Tree.parse? body with
  | none => ⟨none, none⟩
  | some tree =>
    -- The nested shape goes first, as it may have flat members beside it.
    match nested? tree with
    | some envelope => envelope
    | none => (pair? "error_code" "error_msg" tree).getD ⟨none, none⟩

end Envelope

/-- The status of an answer that was no success, with its envelope. -/
def Failure.envelope? : Failure → Option (Nat × Envelope)
  | .unexpectedStatus code body => some (code, Envelope.parse body)
  | _ => none

/-- Which errors mean that an object is gone. -/
structure NotFoundRule where
  statusCodes : List Nat := [404]
  /-- The codes of services; without any, the status alone decides. -/
  errorCodes : List String := []
deriving DecidableEq

namespace NotFoundRule

/-- A rule that covers one more status. -/
def addStatus (rule : NotFoundRule) (status : Nat) : NotFoundRule :=
  if status ∈ rule.statusCodes then rule
  else { rule with statusCodes := rule.statusCodes ++ [status] }

/-- Whether a failure means that the object is gone. -/
def covers (rule : NotFoundRule) (failure : Failure) : Bool :=
  match failure.envelope? with
  | none => false
  | some (status, envelope) =>
    -- An answer without a code is not covered by a rule that has codes.
    rule.statusCodes.contains status
      && (rule.errorCodes.isEmpty || envelope.code.any rule.errorCodes.contains)

end NotFoundRule

end Provision
