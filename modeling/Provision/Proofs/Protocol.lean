import Provision.Engine
import Provision.Proofs.Run

/-! Protocols say what runs may answer and do, and compose as runs do: one after another,
up to the first failure. -/

namespace Provision

variable {σ τ α β : Type}

/-- What a run may answer, and all that it may have done by then. -/
abbrev Protocol (α : Type) : Type := Except Failure α → List Event → Prop

namespace Protocol

/-- One protocol after another; a failure of the first ends both and stays what it is. -/
inductive andThen (first : Protocol α) (next : α → Protocol β) : Protocol β where
  | stopped {failure : Failure} {events : List Event} : first (.error failure) events →
      andThen first next (.error failure) events
  | passed {between : α} {answer : Except Failure β} {before after : List Event} :
      first (.ok between) before → next between answer after →
      andThen first next answer (before ++ after)

/-- Where both of two protocols in sequence succeed, the second goes on from the answer of the
first. -/
theorem andThen.of_ok {first : Protocol α} {next : α → Protocol β} {answer : β}
    {events : List Event} (goes : first.andThen next (.ok answer) events) :
    ∃ between before after, first (.ok between) before ∧ next between (.ok answer) after ∧
      events = before ++ after := by
  -- A failure of the first protocol would be the answer of both.
  generalize answered : (Except.ok answer : Except Failure β) = result at goes
  cases goes with
  | stopped => cases answered
  | passed began ended => exact ⟨_, _, _, began, ended, rfl⟩

/-- What holds of all events of two protocols holds of all events of both in sequence. -/
theorem andThen.forall_mem {first : Protocol α} {next : α → Protocol β} {holds : Event → Prop}
    {answer : Except Failure β} {events : List Event} (goes : first.andThen next answer events)
    (early : ∀ answer events, first answer events → ∀ event ∈ events, holds event)
    (late : ∀ between answer events, next between answer events → ∀ event ∈ events, holds event) :
    ∀ event ∈ events, holds event := by
  -- Each event is one of the first protocol or one of the second.
  cases goes with
  | stopped began => exact early _ _ began
  | passed began ended =>
    intro event member
    rcases List.mem_append.mp member with here | later
    · exact early _ _ began event here
    · exact late _ _ _ ended event later

end Protocol

/-- A run that goes by a protocol in every environment and at every instant. -/
def Run.Obeys (run : Run σ α) (protocol : Protocol α) : Prop :=
  ∀ env now, protocol (run env now).answer (run env now).events

namespace Run

/-- Runs in sequence go by their protocols in sequence. -/
theorem bind_goes {first : Run σ α} {next : α → Run σ β} {protocol : Protocol α}
    {later : α → Protocol β} {env : σ} {now : Nat}
    (began : protocol (first env now).answer (first env now).events)
    (goes : ∀ between, (first env now).answer = .ok between →
      (next between).Obeys (later between)) :
    protocol.andThen later ((first >>= next) env now).answer ((first >>= next) env now).events := by
  -- The answer of the first run decides which way the protocols go.
  cases answered : (first env now).answer with
  | error failure =>
    rw [bind_of_error answered]
    exact .stopped (answered ▸ began)
  | ok between =>
    rw [bind_of_ok answered]
    exact .passed (answered ▸ began) (goes between answered _ _)

/-- Runs that go by protocols do so in sequence. -/
theorem Obeys.bind {first : Run σ α} {next : α → Run σ β} {protocol : Protocol α}
    {later : α → Protocol β} (began : first.Obeys protocol)
    (goes : ∀ between, (next between).Obeys (later between)) :
    (first >>= next).Obeys (protocol.andThen later) :=
  fun env now => bind_goes (began env now) fun between _ => goes between

end Run

/-- A request is sent once if it can be formed, and its answer is the end. -/
inductive Sends (formed : Except Failure Request) : Protocol Response where
  | unformed {failure : Failure} : formed = .error failure → Sends formed (.error failure) []
  | sent {start finish : Nat} {request : Request} {answer : Except Failure Response} :
      formed = .ok request → Sends formed answer [.call start finish request answer]

/-- A request that was answered well was sent. -/
theorem Sends.of_ok {formed : Except Failure Request} {response : Response} {events : List Event}
    (sends : Sends formed (.ok response) events) :
    ∃ start finish request, formed = .ok request ∧
      events = [.call start finish request (.ok response)] := by
  -- An answer without a failure leaves only that something was sent.
  cases sends with
  | sent formed => exact ⟨_, _, _, formed, rfl⟩

/-- A request that may fail to be formed goes by that protocol when it is sent. -/
theorem Remote.send_obeys (remote : Remote σ) (formed : Except Failure Request) :
    (liftM formed >>= remote.send).Obeys (Sends formed) := by
  -- What cannot be formed is not sent.
  intro env now
  cases formed with
  | error failure => exact .unformed rfl
  | ok request =>
    rw [Run.monadLift_ok_bind]
    exact .sent rfl

/-- One billing call is made, which depends on the instant, and its answer is the end. -/
inductive Bills (call : Nat → BillingCall) : Protocol α where
  | granted {start : Nat} {answer : α} {inner : List Event} :
      Bills call (.ok answer) [.billing start (call start) none inner]
  | denied {start : Nat} {failure : Failure} {inner : List Event} :
      Bills call (.error failure) [.billing start (call start) (some failure) inner]

/-- A billing call is no request. -/
theorem Bills.no_request {call : Nat → BillingCall} {answer : Except Failure α}
    {events : List Event} (bills : Bills call answer events) :
    ∀ event ∈ events, ∀ start finish request reply, event ≠ .call start finish request reply := by
  -- Granted or denied, the one event is a billing call.
  cases bills <;> simp

/-- A run that counts as one billing call goes by that protocol. -/
theorem Run.billed_obeys (call : Nat → BillingCall) (run : Nat → Run σ α) :
    (Run.now >>= fun now => (run now).billed (call now)).Obeys (Bills call) := by
  intro env now
  rw [Run.now_bind]
  -- The call is recorded with its failure, and fails or succeeds with it.
  cases answered : (run now env now).answer with
  | error failure =>
    simp only [Run.billed, answered]
    exact .denied
  | ok answer =>
    simp only [Run.billed, answered]
    exact .granted

end Provision
