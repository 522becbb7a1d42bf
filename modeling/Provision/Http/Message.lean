import Provision.Config
import Provision.Http.Url

/-! Requests go over the wire as messages: a target below the
address of a service, headers and a body. -/

namespace Provision.Http

/-- A request as a server receives it. -/
structure Message where
  method : Method
  target : String
  /-- Names in small letters, with values without blanks around them. -/
  headers : List (String × String)
  body : Option Document

/-- The method and target of a message. -/
def Message.key (m : Message) : String := s!"{m.method.text} {m.target}"

/-- Characters of the name of a header. -/
def isNameChar (c : Char) : Bool :=
  c.isAlphanum ||
    c ∈ ['!', '#', '$', '%', '&', '\'', '*', '+', '-', '.', '^', '_', '\x60', '|', '~']

/-- Characters of the value of a header: tabs, and all but controls. -/
def isValueChar (c : Char) : Bool := c == '\t' || (0x20 ≤ c.toNat && c.toNat ≠ 0x7F)

/-- A text without spaces and tabs around it. -/
def trimBlanks (s : String) : String :=
  let isBlank (c : Char) : Bool := c == ' ' || c == '\t'
  String.ofList ((s.toList.dropWhile isBlank).reverse.dropWhile isBlank).reverse

/-- A header as it is received; some names and values are none. -/
def header? (header : String × String) : Option (String × String) :=
  let (name, value) := header
  if !name.isEmpty && name.toList.all isNameChar && value.toList.all isValueChar then
    some (String.ofList (name.toList.map Char.toLower), trimBlanks value)
  else none

/-- A service at an address, and what proves the right to call it. -/
structure Client where
  address : String
  token : Option String := none

namespace Client

/-- The address of a path below that of the service. -/
def url? (c : Client) (path : String) : Option Url :=
  -- However many slashes the path starts with, one stands between the two.
  Url.read? (Config.withSlash c.address ++ String.ofList (path.toList.dropWhile (· = '/')))

/-- The headers of a request: its content's type, the token, and those of its own. -/
def headers? (c : Client) (request : Request) : Option (List (String × String)) :=
  let token := c.token.toList.map fun token => ("x-auth-token", token)
  (("content-type", "application/json") :: token ++ request.headers).mapM header?

/-- The host that a request goes to and the message it becomes, if it can be one. -/
def message? (c : Client) (request : Request) : Option (Url × Message) := do
  let url ← c.url? request.path
  -- One unfit header is enough for there to be no message.
  let headers ← c.headers? request
  let url := { url with query := Url.extendQuery url.query request.query }
  return (url, ⟨request.method, url.target, headers, request.body⟩)

end Client

end Provision.Http
