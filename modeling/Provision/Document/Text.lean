import Provision.Document
import Provision.Binary64.Shortest

/-! Documents are written compactly, with fields in key order
and only what must be escaped escaped. -/

namespace Provision

/-- Integers in plain digits, doubles in their shortest text. -/
def Number.text : Number → String
  | .int n _ _ => toString n
  | .float x _ => x.text

namespace Document

/-- A hexadecimal digit in lower case. -/
def hexDigit (n : Nat) : Char := if n < 10 then Char.ofNat (48 + n) else Char.ofNat (87 + n)

/-- Quotes, backslashes and control characters are escaped, the common ones by a letter. -/
def escape : Char → List Char
  | '"' => ['\\', '"']
  | '\\' => ['\\', '\\']
  | '\x08' => ['\\', 'b']
  | '\t' => ['\\', 't']
  | '\n' => ['\\', 'n']
  | '\x0c' => ['\\', 'f']
  | '\r' => ['\\', 'r']
  | c =>
    if c.toNat < 32 then ['\\', 'u', '0', '0', hexDigit (c.toNat / 16), hexDigit (c.toNat % 16)]
    else [c]

/-- A string between quotes. -/
def quote (s : String) : List Char := '"' :: s.toList.flatMap escape ++ ['"']

mutual

/-- The characters of a document. -/
def characters : Document → List Char
  | null => ['n', 'u', 'l', 'l']
  | bool true => ['t', 'r', 'u', 'e']
  | bool false => ['f', 'a', 'l', 's', 'e']
  | number n => n.text.toList
  | string s => quote s
  | array [] => ['[', ']']
  | array (item :: rest) => '[' :: item.characters ++ itemCharacters rest ++ [']']
  | object [] => ['{', '}']
  | object ((key, value) :: rest) =>
    '{' :: quote key ++ ':' :: value.characters ++ fieldCharacters rest ++ ['}']

/-- The items after the first, each behind a comma. -/
def itemCharacters : List Document → List Char
  | [] => []
  | item :: rest => ',' :: item.characters ++ itemCharacters rest

/-- The fields after the first, each behind a comma. -/
def fieldCharacters : List (String × Document) → List Char
  | [] => []
  | (key, value) :: rest => ',' :: quote key ++ ':' :: value.characters ++ fieldCharacters rest

end

/-- The compact text of a document. -/
def text (d : Document) : String := String.ofList d.characters

/-- A code unit of 16 bits as an escape. -/
def unitEscape (unit : Nat) : List Char :=
  ['\\', 'u', hexDigit (unit / 0x1000), hexDigit (unit / 0x100 % 16), hexDigit (unit / 16 % 16),
    hexDigit (unit % 16)]

/-- A character outside ASCII as escapes of its code units. -/
def asciiEscape (c : Char) : List Char :=
  let n := c.toNat
  if n < 0x80 then [c]
  else if n < 0x10000 then unitEscape n
  -- Characters beyond 16 bits take a pair of code units.
  else unitEscape (0xD800 + (n - 0x10000) / 0x400) ++ unitEscape (0xDC00 + (n - 0x10000) % 0x400)

/-- The compact text of a document in ASCII alone. -/
def asciiText (d : Document) : String := String.ofList (d.characters.flatMap asciiEscape)

end Document

end Provision
