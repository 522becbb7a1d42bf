import Provision.Order

/-! A script stands in for a remote side: canned answers for
each call, of which the last one repeats. -/

namespace Provision

namespace Script

/-- What a call gets: raw bytes with a status, or no connection. -/
inductive Reaction where
  | answer (status : Nat) (raw : List UInt8)
  | noConnection (message : String)
deriving DecidableEq

/-- A canned answer and the time that passes before it. -/
structure Line where
  reaction : Reaction
  delay : Nat
deriving DecidableEq

end Script

/-- The lines left for each call. -/
abbrev Script := List (String × List Script.Line)

namespace Script

/-- The key of a request: its method and path. -/
def key (request : Request) : String := s!"{request.method.text} {request.path}"

/-- A list without its head, unless that is all there is. -/
def advance : List α → List α
  | [] => []
  | [last] => [last]
  | _ :: rest => rest

/-- The lines of a script after one call under a key. -/
def take (key : String) : Script → Script
  | [] => []
  | (k, lines) :: rest =>
    if k = key then (k, advance lines) :: rest else (k, lines) :: take key rest

/-- The line for the next call under a key. -/
def next? (script : Script) (key : String) : Option Line :=
  (Entries.get? key script).bind List.head?

/-- The answer of a reaction to a request. -/
def Reaction.toAnswer (request : Request) : Reaction → Except Failure Response
  | answer status raw => Response.decode request status raw
  | noConnection message => .error (.transport message)

/-- The remote side that plays a script; a call without lines gets no connection. -/
def remote : Remote Script where
  reply request script :=
    match script.next? (key request) with
    | some line => ⟨line.reaction.toAnswer request, line.delay, script.take (key request)⟩
    | none => ⟨.error (.transport s!"unscripted {key request}"), 0, script⟩

end Script

/-- A canned answer, and the time that passes before it. -/
structure Canned (α : Type) where
  answer : Except Failure α
  delay : Nat

/-- A run that plays canned answers, of which the last repeats, and
notes the instants of its calls, last first. -/
def Canned.play (default : α) : Run (List (Canned α) × List Nat) α := fun (lines, instants) now =>
  match lines with
  | [] => ⟨.ok default, ([], now :: instants), 0, []⟩
  | line :: _ => ⟨line.answer, (Script.advance lines, now :: instants), line.delay, []⟩

/-- How a canned billing side answers a call. -/
structure CannedCall where
  delay : Nat := 0
  failure : Option Failure := none

/-- A run that takes time and then answers or fails. -/
def CannedCall.run (call : CannedCall) (answer : α) : Run σ α := fun env _ =>
  match call.failure with
  | some failure => ⟨.error failure, env, call.delay, []⟩
  | none => ⟨.ok answer, env, call.delay, []⟩

/-- A billing side with one canned answer for each kind of call. -/
structure CannedBilling where
  waitOrder : CannedCall := {}
  orderResource : CannedCall := {}
  unsubscribe : CannedCall := {}
  /-- The resource of every order; without it, a name made from the order's. -/
  resource : Option String := none

/-- The client of a canned billing side. -/
def CannedBilling.client (canned : CannedBilling) : BillingClient σ where
  waitOrder _ _ := canned.waitOrder.run ()
  orderResource order _ := canned.orderResource.run (canned.resource.getD s!"res-of-{order}")
  unsubscribe _ := canned.unsubscribe.run ()

end Provision
