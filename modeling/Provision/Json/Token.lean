import Provision.Numeral

/-! JSON text splits into tokens from left to right; strings
keep their escapes until they are read. -/

namespace Provision.Json

/-- A piece of a string as written: a character, or a code unit of
16 bits given by its hexadecimal escape. -/
inductive Piece where
  | char (c : Char)
  | unit (value : Nat)
deriving DecidableEq

/-- A token of JSON text. -/
inductive Token where
  | openBrace
  | closeBrace
  | openBracket
  | closeBracket
  | colon
  | comma
  | null
  | bool (value : Bool)
  | number (value : Numeral)
  | text (pieces : List Piece)
deriving DecidableEq

/-- Space, tab, line feed and carriage return separate tokens. -/
def isBlank (c : Char) : Bool := c == ' ' || c == '\t' || c == '\n' || c == '\r'

/-- The value of a hexadecimal digit of either case. -/
def hexDigit? (c : Char) : Option Nat :=
  if c.isDigit then some (c.toNat - '0'.toNat)
  else if 'a' ≤ c ∧ c ≤ 'f' then some (c.toNat - 'a'.toNat + 10)
  else if 'A' ≤ c ∧ c ≤ 'F' then some (c.toNat - 'A'.toNat + 10)
  else none

/-- The character that a one-letter escape stands for. -/
def shortEscape? : Char → Option Char
  | '"' => some '"'
  | '\\' => some '\\'
  | '/' => some '/'
  | 'b' => some '\x08'
  | 'f' => some '\x0c'
  | 'n' => some '\n'
  | 'r' => some '\r'
  | 't' => some '\t'
  | _ => none

/-- The pieces up to the closing quote and the text after it; control characters must be escaped. -/
def readString : List Char → Option (List Piece × List Char)
  | [] => none
  | '"' :: rest => some ([], rest)
  | '\\' :: 'u' :: a :: b :: c :: d :: rest => do
    let value :=
      (← hexDigit? a) * 4096 + (← hexDigit? b) * 256 + (← hexDigit? c) * 16 + (← hexDigit? d)
    let (pieces, after) ← readString rest
    return (.unit value :: pieces, after)
  | '\\' :: c :: rest => do
    let char ← shortEscape? c
    let (pieces, after) ← readString rest
    return (.char char :: pieces, after)
  | c :: rest =>
    -- A backslash only gets here where the text ends behind it.
    if c.toNat < 32 ∨ c = '\\' then none
    else do
      let (pieces, after) ← readString rest
      return (.char c :: pieces, after)

/-- The token that one character makes by itself. -/
def punctuation? : Char → Option Token
  | '{' => some .openBrace
  | '}' => some .closeBrace
  | '[' => some .openBracket
  | ']' => some .closeBracket
  | ':' => some .colon
  | ',' => some .comma
  | _ => none

/-- A word or number at the start of a text. -/
def readWord : List Char → Option (Token × List Char)
  | 'n' :: 'u' :: 'l' :: 'l' :: rest => some (.null, rest)
  | 't' :: 'r' :: 'u' :: 'e' :: rest => some (.bool true, rest)
  | 'f' :: 'a' :: 'l' :: 's' :: 'e' :: rest => some (.bool false, rest)
  | text => (Numeral.read text).map fun (n, rest) => (.number n, rest)

/-- The token at the start of a text that begins with no blank, and the text after it. -/
def readToken : List Char → Option (Token × List Char)
  | [] => none
  | '"' :: rest => (readString rest).map fun (pieces, after) => (.text pieces, after)
  | c :: rest =>
    match punctuation? c with
    | some token => some (token, rest)
    | none => readWord (c :: rest)

/-- The tokens of a text, of which each takes at least one character. -/
def tokensWithin : (fuel : Nat) → List Char → Option (List Token)
  | 0, text => if text.isEmpty then some [] else none
  | fuel + 1, text =>
    match text.dropWhile isBlank with
    | [] => some []
    | c :: rest => do
      let (token, after) ← readToken (c :: rest)
      let more ← tokensWithin fuel after
      return token :: more

/-- The tokens of a text; none when some part of it is no token. -/
def tokens? (text : String) : Option (List Token) :=
  let characters := text.toList
  -- No text has more tokens than characters.
  tokensWithin (characters.length + 1) characters

end Provision.Json
