import Provision.Document

/-! Paths select from documents; data that is missing is no error. -/

namespace Provision

/-- One step of a path. -/
inductive Segment where
  | field (name : String)
  | index (position : Int)
  | wildcard
  | filter (name : String) (negated : Bool) (literal : Document)

/-- A path: steps in a row make a stage, and each stage starts
from the whole result of the one before. -/
structure Path where
  source : String
  stages : List (List Segment)

namespace Path

/-- A malformed path expression and where in its bytes the fault lies. -/
structure Error where
  expression : String
  offset : Nat
  reason : String
deriving DecidableEq

/-- The text of a path error. -/
def Error.message (e : Error) : String :=
  s!"Invalid path expression '{e.expression}' at offset {e.offset}: {e.reason}"

/-- The item at a position, counted from the end when negative. -/
def itemAt? (items : List α) (position : Int) : Option α :=
  if 0 ≤ position then items[position.toNat]?
  else if position.natAbs ≤ items.length then items[items.length - position.natAbs]?
  else none

/-- Whether an item has a field that agrees with a literal. -/
def holdsField (name : String) (literal item : Document) : Bool :=
  match item.get? name with
  -- A null field is there, and agrees with a null literal.
  | some value => value.agrees literal
  | none => false

/-- What steps select, if they lead anywhere; a projection keeps
the items from which the rest leads on. -/
def walk : List Segment → Document → Option Document
  | [], d => some d
  | .field name :: rest, d =>
    match d.get? name with
    -- A null stands for nothing, even where no further step follows.
    | some .null => none
    | some next => walk rest next
    | none => none
  | .index position :: rest, .array items => (itemAt? items position).bind (walk rest)
  | .index _ :: _, _ => none
  | .wildcard :: rest, .array items => some (.array (items.filterMap (walk rest)))
  -- The values of an object are projected in the order of their keys.
  | .wildcard :: rest, .object fields => some (.array (fields.filterMap fun f => walk rest f.2))
  | .wildcard :: _, _ => none
  | .filter name negated literal :: rest, .array items =>
    -- What is no object lacks the field, and is kept by a negated comparison.
    let kept := items.filter fun item => holdsField name literal item != negated
    some (.array (kept.filterMap (walk rest)))
  | .filter .. :: _, _ => none

/-- What stages select one after the other. -/
def pipe : List (List Segment) → Document → Option Document
  | [], d => some d
  | stage :: rest, d => (walk stage d).bind (pipe rest)

/-- What a path selects from a document; a null in the end counts as missing. -/
def evaluate (p : Path) (d : Document) : Option Document :=
  match pipe p.stages d with
  | some .null => none
  | found => found

end Path

end Provision
