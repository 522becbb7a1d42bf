import Provision.Json.Token

/-! The tokens of a JSON text form one tree, with members in
written order and repeated keys kept. -/

namespace Provision.Json

/-- The structure of a JSON text before any value in it is read. -/
inductive Tree where
  | null
  | bool (value : Bool)
  | number (value : Numeral)
  | text (pieces : List Piece)
  | array (items : List Tree)
  | object (members : List (List Piece × Tree))

/-- An array or object whose end has not been reached, with its finished part in reverse. -/
inductive Frame where
  | array (before : List Tree)
  | object (before : List (List Piece × Tree)) (key : List Piece)

/-- Either a value has to start next, or one has just ended. -/
inductive Stage where
  | awaiting
  | ended (tree : Tree)

/-- Tokens are consumed one after the other above the open arrays and objects. -/
def build : Stage → List Frame → List Token → Option Tree
  | .ended tree, [], [] => some tree
  | .ended tree, .array before :: frames, .comma :: rest =>
    build .awaiting (.array (tree :: before) :: frames) rest
  | .ended tree, .array before :: frames, .closeBracket :: rest =>
    build (.ended (.array (tree :: before).reverse)) frames rest
  -- A key and its colon are taken together with what stands before them.
  | .ended tree, .object before key :: frames, .comma :: .text next :: .colon :: rest =>
    build .awaiting (.object ((key, tree) :: before) next :: frames) rest
  | .ended tree, .object before key :: frames, .closeBrace :: rest =>
    build (.ended (.object ((key, tree) :: before).reverse)) frames rest
  -- Only right behind its start may an array or object end without a value.
  | .awaiting, frames, .openBracket :: .closeBracket :: rest =>
    build (.ended (.array [])) frames rest
  | .awaiting, frames, .openBracket :: rest => build .awaiting (.array [] :: frames) rest
  | .awaiting, frames, .openBrace :: .closeBrace :: rest => build (.ended (.object [])) frames rest
  | .awaiting, frames, .openBrace :: .text key :: .colon :: rest =>
    build .awaiting (.object [] key :: frames) rest
  | .awaiting, frames, .null :: rest => build (.ended .null) frames rest
  | .awaiting, frames, .bool b :: rest => build (.ended (.bool b)) frames rest
  | .awaiting, frames, .number n :: rest => build (.ended (.number n)) frames rest
  | .awaiting, frames, .text pieces :: rest => build (.ended (.text pieces)) frames rest
  -- This rules out tokens behind the whole value as well.
  | _, _, _ => none

/-- The tree of a text that is one JSON value with blanks around it. -/
def Tree.parse? (text : String) : Option Tree :=
  (tokens? text).bind (build .awaiting [])

/-- The first half of a pair of code units. -/
def isHigh (unit : Nat) : Bool := 0xD800 ≤ unit && unit < 0xDC00

/-- The second half of a pair of code units. -/
def isLow (unit : Nat) : Bool := 0xDC00 ≤ unit && unit < 0xE000

/-- The characters that pieces stand for; half a pair of code units stands for none. -/
def characters? : List Piece → Option (List Char)
  | [] => some []
  | .char c :: rest => (characters? rest).map (c :: ·)
  | .unit high :: .unit low :: rest =>
    if isHigh high then
      if isLow low then
        (characters? rest).map
          (Char.ofNat (0x10000 + (high - 0xD800) * 0x400 + (low - 0xDC00)) :: ·)
      else none
    -- Of a pair the high half comes first.
    else if isLow high then none
    else (characters? (.unit low :: rest)).map (Char.ofNat high :: ·)
  | .unit u :: rest =>
    if isHigh u || isLow u then none else (characters? rest).map (Char.ofNat u :: ·)

/-- The string that pieces stand for. -/
def string? (pieces : List Piece) : Option String := (characters? pieces).map String.ofList

end Provision.Json
