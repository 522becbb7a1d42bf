import Provision.Duration
import Provision.Path

/-! Failures are the causes that end an operation, each with its own message. -/

namespace Provision

/-- Why an operation failed. -/
inductive Failure where
  /-- The call did not get through. -/
  | transport (message : String)
  /-- The status of the answer is none of those that count as success. -/
  | unexpectedStatus (code : Nat) (body : String)
  | decode (message : String)
  | path (error : Path.Error)
  | pollFailure (resource status : String) (elapsed : Nat)
  | pollTimeout (resource : String) (lastStatus : Option String) (elapsed : Nat)
  | orderNeverAppeared (resource : String) (elapsed : Nat)
  | billing (message : String)
  | missingIdentifier (source context : String)
  | resourceGone (resource : String)
  | unresolvedPlaceholder (template placeholder : String)
  | invalidPollSpec (message : String)
  | invalidConfiguration (message : String)
  /-- The attributes cannot change without a new object. -/
  | requiresReplacement (attributes : List String)
  | notUpdatable (attributes : List String)
deriving DecidableEq

namespace Failure

/-- The text of a failure. -/
def message : Failure → String
  | transport message => s!"Transport error: {message}"
  | unexpectedStatus code body => s!"Unexpected status {code}: {body}"
  | decode message => s!"Failed to decode response: {message}"
  | path error => error.message
  | pollFailure resource status elapsed =>
    s!"{resource} reached failure status '{status}' after {Duration.text elapsed}"
  | pollTimeout resource lastStatus elapsed =>
    let status := lastStatus.getD "unknown"
    s!"Timed out after {Duration.text elapsed} waiting for {resource} (last status: {status})"
  | orderNeverAppeared resource elapsed =>
    s!"No order ID appeared for {resource} within {Duration.text elapsed}"
  | billing message => s!"Billing error: {message}"
  | missingIdentifier source context => s!"Missing identifier at '{source}' in {context} response"
  | resourceGone resource => s!"{resource} no longer exists"
  | unresolvedPlaceholder template placeholder =>
    "Unresolved placeholder '\x7b" ++ placeholder ++ s!"\x7d' in path '{template}'"
  | invalidPollSpec message => s!"Invalid poll specification: {message}"
  | invalidConfiguration message => s!"Invalid configuration: {message}"
  | requiresReplacement attributes =>
    let names := String.intercalate ", " attributes
    s!"Changing {names} requires replacing the resource"
  | notUpdatable attributes => "No update operation for " ++ String.intercalate ", " attributes

/-- Running out of time is a failure of its own kind. -/
def isTimeout : Failure → Bool
  | pollTimeout .. => true
  | orderNeverAppeared .. => true
  | _ => false

end Failure

end Provision
