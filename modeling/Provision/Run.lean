import Provision.Request

/-! Runs are programs over an arbitrary environment: they take
time, leave a record of events, and may fail. -/

namespace Provision

/-- A call to the billing side. -/
inductive BillingCall where
  | waitOrder (order : String) (timeout : Nat)
  | orderResource (order : String) (timeout : Nat)
  | unsubscribe (resources : List String)
deriving DecidableEq

/-- What a run did, and when. -/
inductive Event where
  /-- A request, the answer to it, and when that came. -/
  | call (start finish : Nat) (request : Request) (answer : Except Failure Response)
  /-- A pause that was asked for. -/
  | sleep (start wake : Nat)
  /-- A billing call, how it failed if it did, and all that happened inside it. -/
  | billing (start : Nat) (call : BillingCall) (failure : Option Failure) (inner : List Event)

namespace Event

mutual

/-- The requests of an event with their instants, also those inside billing calls. -/
def requests : Event → List (Nat × Request)
  | call start _ request _ => [(start, request)]
  | sleep _ _ => []
  | billing _ _ _ inner => requestsOf inner

/-- The requests of events in order. -/
def requestsOf : List Event → List (Nat × Request)
  | [] => []
  | e :: rest => e.requests ++ requestsOf rest

end

/-- The billing calls among events, in order. -/
def billingCalls (events : List Event) : List BillingCall :=
  events.filterMap fun
    | billing _ made _ _ => some made
    | _ => none

end Event

/-- How a run ended: its answer, what it left behind, how long it took, and what it did. -/
structure Outcome (σ α : Type) where
  answer : Except Failure α
  env : σ
  elapsed : Nat
  events : List Event

/-- The same end after a span of time in which other events came first. -/
def Outcome.delayed (o : Outcome σ α) (span : Nat) (before : List Event) : Outcome σ α :=
  { o with elapsed := span + o.elapsed, events := before ++ o.events }

/-- A run in an environment, started at an instant. -/
def Run (σ α : Type) : Type := σ → Nat → Outcome σ α

namespace Run

/-- The run that does nothing and answers at once. -/
def pure (answer : α) : Run σ α := fun env _ => ⟨.ok answer, env, 0, []⟩

/-- The run that fails at once. -/
def fail (failure : Failure) : Run σ α := fun env _ => ⟨.error failure, env, 0, []⟩

/-- One run after another; a failure of the first ends both. -/
def bind (first : Run σ α) (next : α → Run σ β) : Run σ β := fun env now =>
  let o := first env now
  match o.answer with
  | .error failure => ⟨.error failure, o.env, o.elapsed, o.events⟩
  | .ok answer => (next answer o.env (now + o.elapsed)).delayed o.elapsed o.events

instance : Monad (Run σ) where
  pure := Run.pure
  bind := Run.bind

/-- A computation that takes no time. -/
def ofExcept : Except Failure α → Run σ α
  | .ok answer => pure answer
  | .error failure => fail failure

instance : MonadLift (Except Failure) (Run σ) := ⟨ofExcept⟩

/-- The instant at which a run stands. -/
def now : Run σ Nat := fun env now => ⟨.ok now, env, 0, []⟩

/-- A run whose failure is an answer like others. -/
def attempt (run : Run σ α) : Run σ (Except Failure α) := fun env now =>
  let o := run env now
  ⟨.ok o.answer, o.env, o.elapsed, o.events⟩

/-- A run that counts as one billing call. -/
def billed (call : BillingCall) (run : Run σ α) : Run σ α := fun env now =>
  let o := run env now
  let failure := match o.answer with
    | .ok _ => none
    | .error failure => some failure
  -- What happens inside stays in the record of the call, in one event.
  { o with events := [.billing now call failure o.events] }

/-- A run with a variable of its own beside the environment. -/
def withVariable (initial : τ) (run : Run (τ × σ) α) : Run σ α := fun env now =>
  let o := run (initial, env) now
  ⟨o.answer, o.env.2, o.elapsed, o.events⟩

/-- A run that leaves a variable beside its environment alone. -/
def beside (run : Run σ α) : Run (τ × σ) α := fun env now =>
  let o := run env.2 now
  ⟨o.answer, (env.1, o.env), o.elapsed, o.events⟩

end Run

/-- How a service answers a request, how long it takes, and what becomes of the environment. -/
structure Reply (σ : Type) where
  answer : Except Failure Response
  delay : Nat
  env : σ

/-- A remote service: its reply to every request in every environment. -/
structure Remote (σ : Type) where
  reply : Request → σ → Reply σ

/-- One request, recorded with its answer. -/
def Remote.send (remote : Remote σ) (request : Request) : Run σ Response := fun env now =>
  let reply := remote.reply request env
  ⟨reply.answer, reply.env, reply.delay, [.call now (now + reply.delay) request reply.answer]⟩

end Provision
