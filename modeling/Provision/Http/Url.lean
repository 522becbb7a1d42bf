/-! Addresses of the web are cleaned, cut into their parts, and
escaped to what may go over the wire. -/

namespace Provision.Http

/-- Where an address points to: a host, and what is asked for there. -/
structure Url where
  secure : Bool
  /-- The host as the address writes it, with all that belongs to it. -/
  authority : String
  path : String
  query : Option String
deriving DecidableEq

namespace Url

/-- A hexadecimal digit in upper case. -/
def hexDigit (n : Nat) : Char := if n < 10 then Char.ofNat (48 + n) else Char.ofNat (55 + n)

/-- A byte as a percent sign and two digits. -/
def escapeByte (byte : UInt8) : List Char :=
  ['%', hexDigit (byte.toNat / 16), hexDigit (byte.toNat % 16)]

/-- Characters that are not kept stand as their escaped bytes. -/
def escape (kept : Char → Bool) (text : List Char) : List Char :=
  text.flatMap fun c => if kept c then [c] else c.toString.toUTF8.toList.flatMap escapeByte

/-- Printable ASCII besides the space. -/
def isGraphic (c : Char) : Bool := 0x20 < c.toNat && c.toNat < 0x7F

/-- Characters that a query keeps. -/
def isQueryChar (c : Char) : Bool := isGraphic c && c ∉ ['"', '#', '<', '>', '\'']

/-- Characters that a path keeps. -/
def isPathChar (c : Char) : Bool :=
  -- The last three are the backquote and the braces.
  isGraphic c && c ∉ ['"', '#', '<', '>', '?', '\x60', '\x7b', '\x7d']

/-- Characters that a form keeps. -/
def isFormChar (c : Char) : Bool := c.isAlphanum || c ∈ ['*', '-', '.', '_']

/-- A text as part of a form, in which spaces are plus signs. -/
def formText (s : String) : List Char :=
  (escape (fun c => isFormChar c || c == ' ') s.toList).map fun c => if c = ' ' then '+' else c

/-- A name and its value as part of a form. -/
def formPair (pair : String × String) : List Char := formText pair.1 ++ '=' :: formText pair.2

/-- A query with more names and values behind what it has. -/
def extendQuery (query : Option String) (pairs : List (String × String)) : Option String :=
  let start := (query.getD "").toList
  let added := List.intercalate ['&'] (pairs.map formPair)
  let joined := if start.isEmpty ∨ added.isEmpty then start ++ added else start ++ '&' :: added
  -- Nothing to add leaves an empty query as it is.
  if pairs.isEmpty then query else if joined.isEmpty then none else some (String.ofList joined)

/-- Slashes lean either way. -/
def isSlash (c : Char) : Bool := c == '/' || c == '\\'

/-- The parts between slashes. -/
def segments (text : List Char) : List (List Char) :=
  match text with
  | [] => [[]]
  | c :: rest =>
    if isSlash c then [] :: segments rest
    else match segments rest with
      | [] => [[c]]
      | segment :: more => (c :: segment) :: more

/-- A segment with its escaped dots as dots. -/
def plainDots : List Char → List Char
  | '%' :: '2' :: e :: rest =>
    if e.toLower = 'e' then '.' :: plainDots rest else '%' :: '2' :: e :: plainDots rest
  | c :: rest => c :: plainDots rest
  | [] => []

/-- Segments, last first, where one dot stays where it is and two go up. -/
def resolve (done : List (List Char)) : List (List Char) → List (List Char)
  | [] => done
  | segment :: rest =>
    let dots := plainDots segment
    if dots = ['.', '.'] then
      -- Dots at the end leave the slash in front of them in place.
      if rest.isEmpty then [] :: done.tail else resolve done.tail rest
    else if dots = ['.'] then
      if rest.isEmpty then [] :: done else resolve done rest
    else resolve (escape isPathChar segment :: done) rest

/-- The path of a text that starts with a slash or is empty. -/
def pathOf (text : List Char) : String :=
  String.ofList ('/' :: List.intercalate ['/'] (resolve [] (segments (text.drop 1))).reverse)

/-- The text behind a scheme, and whether that scheme is the secure one. -/
def readScheme? (text : List Char) : Option (Bool × List Char) :=
  let scheme := (text.takeWhile (· ≠ ':')).map Char.toLower
  match text.dropWhile (· ≠ ':') with
  | ':' :: rest =>
    if scheme = ['h', 't', 't', 'p'] then some (false, rest)
    else if scheme = ['h', 't', 't', 'p', 's'] then some (true, rest)
    else none
  | _ => none

/-- Blanks and controls around an address do not count, nor do tabs and line ends within. -/
def clean (text : List Char) : List Char :=
  let isOuter (c : Char) : Bool := c.toNat ≤ 0x20
  let inner := ((text.dropWhile isOuter).reverse.dropWhile isOuter).reverse
  inner.filter (· ∉ ['\t', '\n', '\r'])

/-- The parts of an address; a fragment is dropped. -/
def read? (s : String) : Option Url := do
  let (secure, rest) ← readScheme? (clean s.toList)
  -- Any number of slashes of either kind may stand in front of the host.
  let located := (rest.dropWhile isSlash).takeWhile (· ≠ '#')
  let authority := located.takeWhile fun c => !isSlash c && c != '?'
  let below := located.dropWhile fun c => !isSlash c && c != '?'
  if authority.isEmpty then none
  else
    let query := match below.dropWhile (· ≠ '?') with
      | _ :: query => some (String.ofList (escape isQueryChar query))
      | [] => none
    some ⟨secure, String.ofList authority, pathOf (below.takeWhile (· ≠ '?')), query⟩

/-- What is asked for at the host. -/
def target (u : Url) : String :=
  match u.query with
  | some query => u.path ++ "?" ++ query
  | none => u.path

end Url

end Provision.Http
