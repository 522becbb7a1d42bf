import Provision.Failure
import Provision.Document.Reader
import Provision.Text.Utf8

/-! Requests are single calls to a remote service, and their answers are decoded by one rule. -/

namespace Provision

/-- How a service is called. -/
inductive Method where
  | get
  | post
  | put
  | delete
deriving DecidableEq

namespace Method

/-- The word for a method. -/
def text : Method → String
  | get => "GET"
  | post => "POST"
  | put => "PUT"
  | delete => "DELETE"

/-- The status codes that count as success unless others are asked for. -/
def successCodes : Method → List Nat
  | get => [200]
  | post => [200, 201, 202]
  | put => [200, 204]
  | delete => [200, 202, 204]

end Method

/-- A call with nothing left to fill in. -/
structure Request where
  method : Method
  /-- The path below the address of the service. -/
  path : String
  query : List (String × String) := []
  headers : List (String × String) := []
  body : Option Document := none
  successCodes : List Nat := method.successCodes

/-- The decoded answer to a call that succeeded. -/
structure Response where
  status : Nat
  /-- An empty answer is null. -/
  body : Document

namespace Response

/-- Space, tab, line feed, form feed and carriage return. -/
def isBlank (byte : UInt8) : Bool :=
  byte == 32 || byte == 9 || byte == 10 || byte == 12 || byte == 13

/-- The answer that a status and raw bytes make to a request. -/
def decode (request : Request) (status : Nat) (raw : List UInt8) : Except Failure Response :=
  if status ∉ request.successCodes then
    .error (.unexpectedStatus status (Utf8.decodeLossy raw))
  -- Nothing at all is no malformed document.
  else if raw.all isBlank then .ok ⟨status, .null⟩
  else
    match (Utf8.decode? raw).bind Document.parse? with
    | some body => .ok ⟨status, body⟩
    | none => .error (.decode s!"{request.method.text} {request.path} returned undecodable body")

end Response

end Provision
