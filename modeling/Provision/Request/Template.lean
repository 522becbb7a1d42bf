import Provision.Failure
import Provision.Dict

/-! Path templates hold names in braces, which parameters replace in one pass from left to right. -/

namespace Provision.Template

/-- A piece of a template: a character of its own, or a name to be replaced. -/
inductive Part where
  | char (c : Char)
  | hole (name : String)
deriving DecidableEq

/-- Letters and underscores start a name. -/
def isNameStart (c : Char) : Bool := c.isAlpha || c == '_'

/-- Letters, digits and underscores continue a name. -/
def isNameChar (c : Char) : Bool := c.isAlphanum || c == '_'

/-- The name that closes a brace at the start of a text, and the text behind it. -/
def readHole? (text : List Char) : Option (String × List Char) :=
  let name := text.takeWhile isNameChar
  match text.dropWhile isNameChar with
  | '}' :: rest => if name.head?.any isNameStart then some (String.ofList name, rest) else none
  | _ => none

/-- A name in braces takes at least the brace that closes it. -/
theorem readHole?_length {text rest : List Char} {name : String}
    (read : readHole? text = some (name, rest)) : rest.length < text.length := by
  -- What is left starts behind the brace, which itself lies behind the name.
  unfold readHole? at read
  dsimp only at read
  split at read
  · rename_i closed
    have suffix := (List.dropWhile_suffix isNameChar (l := text)).length_le
    rw [closed, List.length_cons] at suffix
    split at read
    · cases read
      exact suffix
    · cases read
  · cases read

/-- The pieces of a template; braces around anything but a name are characters of their own. -/
def parts (text : List Char) : List Part :=
  match text with
  | [] => []
  | c :: rest =>
    if c = '{' then
      match read : readHole? rest with
      | some (name, after) =>
        have := readHole?_length read
        .hole name :: parts after
      | none => .char c :: parts rest
    else .char c :: parts rest
termination_by text.length

/-- Pieces with each name replaced, or the first name that no parameter has. -/
def fill (params : Dict String) : List Part → Except String (List Char)
  | [] => .ok []
  | .char c :: rest => (fill params rest).map (c :: ·)
  | .hole name :: rest =>
    match params.get? name with
    -- A value is copied as it is, even if there are braces in it.
    | some value => (fill params rest).map (value.toList ++ ·)
    | none => .error name

/-- The path of a template, in which every name has to be a parameter. -/
def resolve (template : String) (params : Dict String) : Except Failure String :=
  match fill params (parts template.toList) with
  | .ok path => .ok (String.ofList path)
  | .error name => .error (.unresolvedPlaceholder template name)

/-- A name as it stands in a template. -/
def hole (name : String) : String := "\x7b" ++ name ++ "\x7d"

end Provision.Template
