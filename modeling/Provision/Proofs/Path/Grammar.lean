import Provision.Path.Parser

/-! The grammar of path expressions: which texts stand for which stages, whatever the way in which
they are read. -/

namespace Provision.Path.Grammar

/-- The characters that may stand around the parts of an expression. -/
def IsSpace (c : Char) : Prop := c ∈ [' ', '\t', '\n', '\x0c', '\r']

/-- A letter from A to Z, large or small. -/
def IsLetter (c : Char) : Prop := ('A' ≤ c ∧ c ≤ 'Z') ∨ ('a' ≤ c ∧ c ≤ 'z')

/-- A digit from 0 to 9. -/
def IsDigit (c : Char) : Prop := '0' ≤ c ∧ c ≤ '9'

/-- Any number of spaces, or none. -/
def Spaces (text : List Char) : Prop := ∀ c ∈ text, IsSpace c

/-- A name: a letter or an underscore, and behind it also digits and hyphens. -/
inductive Name : List Char → String → Prop where
  | mk {first : Char} {rest : List Char} :
      -- Only behind the first character can there be digits and hyphens.
      IsLetter first ∨ first = '_' →
      (∀ c ∈ rest, IsLetter c ∨ IsDigit c ∨ c = '_' ∨ c = '-') →
      Name (first :: rest) (String.ofList (first :: rest))

/-- One digit or more, and the number that they spell in base ten. -/
inductive Decimal : List Char → Nat → Prop where
  | single {digit : Nat} : digit < 10 → Decimal [digit.digitChar] digit
  | further {digits : List Char} {number digit : Nat} : Decimal digits number → digit < 10 →
      Decimal (digits ++ [digit.digitChar]) (10 * number + digit)

/-- A decimal with or without a minus sign, within the range of 64 bits with sign. -/
inductive Index : List Char → Int → Prop where
  | plain {digits : List Char} {number : Nat} : Decimal digits number →
      number < 9223372036854775808 → Index digits number
  | minus {digits : List Char} {number : Nat} : Decimal digits number →
      number ≤ 9223372036854775808 → Index ('-' :: digits) (-number)

/-- Text in single quotes stands for itself, and text in backquotes for the document that it is. -/
inductive Literal : List Char → Document → Prop where
  | raw {text : List Char} : '\'' ∉ text →
      Literal ('\'' :: (text ++ ['\''])) (.string (String.ofList text))
  | json {text : List Char} {document : Document} : '\x60' ∉ text →
      Document.parse? (String.ofList text) = some document →
      Literal ('\x60' :: (text ++ ['\x60'])) document

/-- The two comparisons, of which the second one is negated. -/
inductive Operator : List Char → Bool → Prop where
  | same : Operator ['=', '='] false
  | other : Operator ['!', '='] true

/-- A name compared with a literal; spaces may stand around all three parts. -/
inductive Filter : List Char → Segment → Prop where
  | mk {before between behind after named compared quoted : List Char} {name : String}
      {negated : Bool} {literal : Document} :
      Spaces before → Name named name → Spaces between → Operator compared negated →
      Spaces behind → Literal quoted literal → Spaces after →
      Filter (before ++ (named ++ (between ++ (compared ++ (behind ++ (quoted ++ after))))))
        (.filter name negated literal)

/-- A star, a filter behind a question mark, or an index. -/
inductive Content : List Char → Segment → Prop where
  | wildcard : Content ['*'] .wildcard
  | filter {text : List Char} {segment : Segment} : Filter text segment →
      Content ('?' :: text) segment
  | index {text : List Char} {position : Int} : Index text position →
      Content text (.index position)

/-- Such content between brackets, without spaces inside them other than those of a filter. -/
inductive Bracket : List Char → Segment → Prop where
  | mk {text : List Char} {segment : Segment} : Content text segment →
      Bracket ('[' :: (text ++ [']'])) segment

/-- A step that needs a dot or brackets in front of it. -/
inductive Step : List Char → Segment → Prop where
  | wildcard : Step ['.', '*'] .wildcard
  | field {text : List Char} {name : String} : Name text name → Step ('.' :: text) (.field name)
  | bracket {text : List Char} {segment : Segment} : Bracket text segment → Step text segment

/-- Such steps one after the other, or none. -/
inductive Steps : List Char → List Segment → Prop where
  | nil : Steps [] []
  | cons {text rest : List Char} {segment : Segment} {more : List Segment} :
      Step text segment → Steps rest more → Steps (text ++ rest) (segment :: more)

/-- A first step is a bracket, or a name without a dot. -/
inductive Start : List Char → Segment → Prop where
  | bracket {text : List Char} {segment : Segment} : Bracket text segment → Start text segment
  | field {text : List Char} {name : String} : Name text name → Start text (.field name)

/-- A stage: a first step with spaces in front of it, and the steps that follow. -/
inductive Stage : List Char → List Segment → Prop where
  | mk {before text rest : List Char} {first : Segment} {more : List Segment} :
      Spaces before → Start text first → Steps rest more →
      Stage (before ++ (text ++ rest)) (first :: more)

/-- An expression: stages with bars between them, and spaces behind each of them. -/
inductive Expression : List Char → List (List Segment) → Prop where
  | last {text after : List Char} {stage : List Segment} : Stage text stage → Spaces after →
      Expression (text ++ after) [stage]
  | pipe {text after rest : List Char} {stage : List Segment} {stages : List (List Segment)} :
      Stage text stage → Spaces after → Expression rest stages →
      Expression (text ++ (after ++ '|' :: rest)) (stage :: stages)

end Provision.Path.Grammar
