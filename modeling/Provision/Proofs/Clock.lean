import Mathlib.Algebra.Ring.Nat
import Provision.Proofs.Protocol

/-! Runs keep to a deadline: no pause leads beyond it, and whatever takes longer is time that
remote services take. -/

namespace Provision

variable {σ τ α β : Type}

/-- The time that a billing call is given, if it is given any. -/
def BillingCall.timeout? : BillingCall → Option Nat
  | waitOrder _ timeout => some timeout
  | orderResource _ timeout => some timeout
  | unsubscribe _ => none

namespace Event

mutual

/-- An event, and behind a billing call all that happened inside it. -/
def unfolded : Event → List Event
  | call start finish request answer => [call start finish request answer]
  | sleep start wake => [sleep start wake]
  | billing start made failure inner => billing start made failure inner :: record inner

/-- All events, also those inside billing calls. -/
def record : List Event → List Event
  | [] => []
  | event :: rest => event.unfolded ++ record rest

end

/-- The time that a remote service took to answer. -/
def remoteSpan : Event → Nat
  | call start finish _ _ => finish - start
  | _ => 0

/-- The time that remote services took to answer, also inside billing calls. -/
def remoteTime (events : List Event) : Nat := ((record events).map remoteSpan).sum

/-- Whether an event fits a deadline: a pause does not move the clock beyond it, and a billing call
is given the time that is left until then. -/
def Fits (deadline : Nat) : Event → Prop
  | call .. => True
  | sleep asleep wake => wake ≤ asleep ∨ wake ≤ deadline
  | billing start made _ _ => ∀ timeout, made.timeout? = some timeout → timeout = deadline - start

/-- Events in sequence are recorded in sequence. -/
@[simp] theorem record_append (first second : List Event) :
    record (first ++ second) = record first ++ record second := by
  -- The record is made event by event.
  induction first with
  | nil => rw [List.nil_append, record, List.nil_append]
  | cons event rest ih => rw [List.cons_append, record, record, ih, List.append_assoc]

/-- The time that services take adds up over events in sequence. -/
@[simp] theorem remoteTime_append (first second : List Event) :
    remoteTime (first ++ second) = remoteTime first + remoteTime second := by
  -- Times of recorded events are summed up.
  simp [remoteTime]

end Event

/-- A run that starts at an instant keeps to a deadline. -/
structure Outcome.KeepsTo (o : Outcome σ α) (deadline now : Nat) : Prop where
  /-- Beyond the deadline, only remote services take time. -/
  inTime : now + o.elapsed ≤ max now deadline + Event.remoteTime o.events
  fits : ∀ event ∈ Event.record o.events, event.Fits deadline

/-- A run that keeps to a deadline in every environment, at whatever instant it starts. -/
def Run.KeepsTo (run : Run σ α) (deadline : Nat) : Prop :=
  ∀ env now, (run env now).KeepsTo deadline now

namespace Outcome

variable {deadline now : Nat}

/-- What takes no time and does nothing keeps to every deadline. -/
theorem KeepsTo.instant (answer : Except Failure α) (env : σ) :
    (⟨answer, env, 0, []⟩ : Outcome σ α).KeepsTo deadline now where
  inTime := Nat.le_max_left now deadline
  fits := by simp [Event.record]

/-- A pause keeps to a deadline if it does not move the clock beyond it. -/
theorem KeepsTo.pause {asleep wake : Nat} (forward : asleep ≤ wake)
    (fits : wake ≤ asleep ∨ wake ≤ deadline) (answer : Except Failure α) (env : σ) :
    (⟨answer, env, wake - asleep, [.sleep asleep wake]⟩ : Outcome σ α).KeepsTo deadline asleep where
  -- A pause takes no remote time, so it is the clock alone that must not pass the deadline.
  inTime := by
    have reached : asleep + (wake - asleep) ≤ max asleep deadline := by omega
    simpa [Event.remoteTime, Event.record, Event.unfolded, Event.remoteSpan] using reached
  fits := by simpa [Event.record, Event.unfolded, Event.Fits] using fits

/-- One part after another keeps to the deadline that both keep to. -/
theorem KeepsTo.delayed {first : Outcome σ α} {second : Outcome τ β}
    (early : first.KeepsTo deadline now) (late : second.KeepsTo deadline (now + first.elapsed)) :
    (second.delayed first.elapsed first.events).KeepsTo deadline now where
  inTime := by
    -- What the first part takes beyond the deadline is remote time, which only grows.
    have before := early.inTime
    have after := late.inTime
    simp only [Outcome.delayed, Event.remoteTime_append]
    omega
  fits := by
    intro event member
    simp only [Outcome.delayed, Event.record_append, List.mem_append] at member
    rcases member with here | later
    · exact early.fits event here
    · exact late.fits event later

/-- Keeping to a deadline is a matter of time and events, and not of what is answered or left. -/
theorem KeepsTo.of_eq {o : Outcome σ α} {p : Outcome τ β} (keeps : o.KeepsTo deadline now)
    (elapsed : p.elapsed = o.elapsed) (events : p.events = o.events) :
    p.KeepsTo deadline now where
  inTime := by
    rw [elapsed, events]
    exact keeps.inTime
  fits := by
    rw [events]
    exact keeps.fits

end Outcome

namespace Run

variable {deadline : Nat}

/-- A computation keeps to every deadline. -/
theorem KeepsTo.monadLift (answer : Except Failure α) :
    (liftM answer : Run σ α).KeepsTo deadline := by
  -- A computation takes no time.
  intro env now
  rw [monadLift_apply]
  exact .instant answer env

/-- A run that fails at once keeps to every deadline. -/
theorem KeepsTo.fail (failure : Failure) : (fail failure : Run σ α).KeepsTo deadline :=
  fun env _ => .instant (.error failure) env

/-- A run that does nothing keeps to every deadline. -/
theorem KeepsTo.pure (answer : α) : (Pure.pure answer : Run σ α).KeepsTo deadline :=
  fun env _ => .instant (.ok answer) env

/-- A run whose outcome keeps to a deadline goes on in runs that keep to it. -/
theorem keepsTo_bind {first : Run σ α} {next : α → Run σ β} {env : σ} {now : Nat}
    (early : (first env now).KeepsTo deadline now)
    (late : ∀ between, (next between).KeepsTo deadline) :
    ((first >>= next) env now).KeepsTo deadline now := by
  -- A failure of the first run ends both, and otherwise the second starts where the first ended.
  cases answered : (first env now).answer with
  | error failure =>
    rw [bind_of_error answered]
    exact early.of_eq rfl rfl
  | ok between =>
    rw [bind_of_ok answered]
    exact early.delayed (late between _ _)

/-- Runs in sequence keep to the deadline that each of them keeps to. -/
theorem KeepsTo.bind {first : Run σ α} {next : α → Run σ β} (early : first.KeepsTo deadline)
    (late : ∀ between, (next between).KeepsTo deadline) : (first >>= next).KeepsTo deadline :=
  fun env now => keepsTo_bind (early env now) late

/-- A run that looks at the clock first keeps to the deadline that it then keeps to. -/
theorem KeepsTo.now_bind {next : Nat → Run σ α}
    (keeps : ∀ env now, (next now env now).KeepsTo deadline now) :
    (now >>= next).KeepsTo deadline := by
  -- The look at the clock takes no time, so the rest starts at the same instant.
  intro env instant
  rw [Run.now_bind]
  exact keeps env instant

/-- A run whose failure is caught takes the same time. -/
theorem KeepsTo.attempt {run : Run σ α} (keeps : run.KeepsTo deadline) :
    run.attempt.KeepsTo deadline :=
  fun env now => (keeps env now).of_eq rfl rfl

/-- A run with a variable of its own takes the same time. -/
theorem KeepsTo.withVariable {run : Run (τ × σ) α} (keeps : run.KeepsTo deadline) (initial : τ) :
    (run.withVariable initial).KeepsTo deadline :=
  fun env now => (keeps (initial, env) now).of_eq rfl rfl

/-- A request keeps to every deadline, for all the time it takes is that of a service. -/
theorem KeepsTo.send (remote : Remote σ) (request : Request) :
    (remote.send request).KeepsTo deadline := by
  -- The span of the request is counted as remote time, whatever the deadline.
  intro env now
  constructor
  · have start := Nat.le_max_left now deadline
    simp only [Remote.send, Event.remoteTime, Event.record, Event.unfolded, List.append_nil,
      List.map_cons, List.map_nil, List.sum_cons, List.sum_nil, Event.remoteSpan]
    omega
  · simp [Remote.send, Event.record, Event.unfolded, Event.Fits]

/-- A billing call keeps to a deadline if all that happens inside it does, and if it is given the
time that is left. -/
theorem keepsTo_billed {run : Run σ α} {call : BillingCall} {env : σ} {now : Nat}
    (keeps : (run env now).KeepsTo deadline now)
    (given : ∀ timeout, call.timeout? = some timeout → timeout = deadline - now) :
    (run.billed call env now).KeepsTo deadline now := by
  constructor
  · -- The record of the call takes no time by itself.
    have inside := keeps.inTime
    simpa [billed, Event.remoteTime, Event.record, Event.unfolded, Event.remoteSpan] using inside
  · intro event member
    simp only [billed, Event.record, Event.unfolded, List.append_nil, List.mem_cons] at member
    rcases member with rfl | inner
    · exact given
    · exact keeps.fits event inner

end Run

end Provision
