import Provision.Failure
import Provision.Path.Parser
import Provision.Schema
import Provision.Document.Text

/-! Extraction turns what a path selects into values, texts and whole sets of attributes. -/

namespace Provision

/-- The text of a scalar; null, arrays and objects have none. -/
def Document.scalarText? : Document → Option String
  | .string s => some s
  | .number n => some n.text
  | .bool b => some (toString b)
  | _ => none

namespace Path

/-- The value that an expression selects, or a default where there is none. -/
def extract (d : Document) (expression : String) (default : Value) : Except Error Value := do
  let path ← parse expression
  return ((path.evaluate d).bind Value.ofDocument?).getD default

/-- The text of the scalar that an expression selects. -/
def extractText (d : Document) (expression : String) : Except Error (Option String) := do
  let path ← parse expression
  return (path.evaluate d).bind Document.scalarText?

/-- The attributes that are found at their read paths. -/
def flattenList (d : Document) : List Attribute → Attributes → Except Error Attributes
  | [], found => .ok found
  | a :: rest, found =>
    match a.readPath with
    | none => flattenList d rest found
    | some expression => do
      let path ← parse expression
      match (path.evaluate d).bind Value.ofDocument? with
      | some value => flattenList d rest (found.insert a.name value)
      | none => flattenList d rest found

/-- The attributes of a document, each from the read path of its schema. -/
def flatten (s : Schema) (d : Document) : Except Error Attributes := flattenList d s.list Dict.empty

end Path

/-- The text of the scalar that an expression selects; an expression without meaning is a
failure. -/
def Document.readText? (d : Document) (expression : String) : Except Failure (Option String) :=
  (Path.extractText d expression).mapError .path

end Provision
