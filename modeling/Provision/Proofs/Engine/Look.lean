import Provision.Engine
import Provision.Proofs.Poll.Bounds
import Provision.Proofs.Run

/-! A look at an object is one request, and its answer alone says what the look finds. -/

namespace Provision.Engine

variable {σ : Type} {e : Engine σ} {identifier : String}

/-- A request cannot be formed only for a name in its path that no parameter replaces. -/
theorem request_eq_error {endpoint : Endpoint} {target : Option String} {failure : Failure}
    (unformed : e.request endpoint target = .error failure) :
    ∃ template placeholder, failure = .unresolvedPlaceholder template placeholder := by
  -- All parts of a request but its path are taken over from the endpoint and the kind.
  unfold Engine.request at unformed
  simp only [Bind.bind, Except.bind, Template.resolve] at unformed
  split at unformed
  · rename_i resolved
    split at resolved
    · cases resolved
    · cases resolved
      cases unformed
      exact ⟨_, _, rfl⟩
  · cases unformed

/-- What the answer to a read says about an object. -/
def judge (e : Engine σ) (identifier : String) :
    Except Failure Response → Except Failure (Option Document)
  | .error failure => if e.blueprint.notFound.covers failure then .ok none else .error failure
  | .ok response =>
    match e.select response.body identifier with
    | .error failure => .error failure
    | .ok none => .ok none
    | .ok (some document) =>
      match e.status? document with
      | .error failure => .error failure
      | .ok none => .ok (some document)
      | .ok (some status) =>
        if status ∈ e.blueprint.goneStates then .ok none else .ok (some document)

/-- A fetch sends one read of the object and judges the answer. -/
theorem fetch_eq (e : Engine σ) (identifier : String) :
    e.fetch identifier = (do
      let request ← e.request e.blueprint.read (some identifier)
      let answer ← (e.remote.send request).attempt
      e.judge identifier answer) := by
  -- Nothing but the read takes time, so what follows it is a computation.
  unfold fetch
  congr 1
  funext request
  congr 1
  funext answer
  cases answer with
  | error failure =>
    simp only [judge]
    split <;> rfl
  | ok response =>
    simp only [judge]
    cases e.select response.body identifier with
    | error failure => rfl
    | ok found =>
      rw [Run.monadLift_ok_bind]
      cases found with
      | none => rfl
      | some document =>
        simp only
        cases e.status? document with
        | error failure => rfl
        | ok status =>
          rw [Run.monadLift_ok_bind]
          cases status with
          | none => rfl
          | some status =>
            simp only
            split <;> rfl

/-- An object that a read finds is what its answer selects, in a state that is not gone. -/
theorem judge_eq_some_iff {answer : Except Failure Response} {document : Document} :
    e.judge identifier answer = .ok (some document) ↔
      ∃ response status, answer = .ok response ∧
        e.select response.body identifier = .ok (some document) ∧
        e.status? document = .ok status ∧ ∀ state ∈ status, state ∉ e.blueprint.goneStates := by
  -- Every other branch of the judgement answers a failure or no object.
  constructor
  · intro judged
    cases answer with
    | error failure =>
      -- A failure either counts as no object or stays a failure.
      simp only [judge] at judged
      split at judged <;> cases judged
    | ok response =>
      simp only [judge] at judged
      split at judged
      · cases judged
      · cases judged
      · rename_i selected
        split at judged
        · cases judged
        · rename_i shown
          cases judged
          exact ⟨response, none, rfl, selected, shown, fun _ member => nomatch member⟩
        · rename_i status shown
          split at judged
          · cases judged
          · rename_i kept
            cases judged
            exact ⟨response, some status, rfl, selected, shown, by simpa using kept⟩
  · -- A status counts as gone only if it is listed.
    rintro ⟨response, status, rfl, selected, shown, kept⟩
    simp only [judge, selected, shown]
    cases status with
    | none => rfl
    | some status => exact if_neg (kept status rfl)

/-- How the answer to a read shows that an object is not there. -/
inductive ShowsAbsent (e : Engine σ) (identifier : String) : Except Failure Response → Prop where
  | missing {failure : Failure} : e.blueprint.notFound.covers failure = true →
      ShowsAbsent e identifier (.error failure)
  | unlisted {response : Response} : e.select response.body identifier = .ok none →
      ShowsAbsent e identifier (.ok response)
  | gone {response : Response} {document : Document} {status : String} :
      e.select response.body identifier = .ok (some document) →
      e.status? document = .ok (some status) → status ∈ e.blueprint.goneStates →
      ShowsAbsent e identifier (.ok response)

/-- A read finds nothing exactly when its answer shows that the object is not there. -/
theorem judge_eq_none_iff {answer : Except Failure Response} :
    e.judge identifier answer = .ok none ↔ e.ShowsAbsent identifier answer := by
  -- There are as many ways to show absence as there are branches that answer with no object.
  constructor
  · intro judged
    cases answer with
    | error failure =>
      simp only [judge] at judged
      split at judged
      · rename_i covered
        exact .missing covered
      · cases judged
    | ok response =>
      simp only [judge] at judged
      split at judged
      · cases judged
      · rename_i selected
        exact .unlisted selected
      · rename_i selected
        split at judged
        · cases judged
        · cases judged
        · rename_i shown
          split at judged
          · rename_i gone
            exact .gone selected shown gone
          · cases judged
  · intro absent
    cases absent with
    | missing covered => simp [judge, covered]
    | unlisted selected => simp [judge, selected]
    | gone selected shown gone => simp [judge, selected, shown, gone]

/-- What the answer to a read lets a look see. -/
def sight (e : Engine σ) (identifier : String) (answer : Except Failure Response) :
    Except Failure (Observation Document) := do
  match ← e.judge identifier answer with
  | some document => return .found (← e.status? document) document
  | none => return .notFound

/-- A look sends one read of the object and sees what the answer lets it see. -/
theorem look_eq (e : Engine σ) (identifier : String) :
    e.look identifier = (do
      let request ← e.request e.blueprint.read (some identifier)
      let answer ← (e.remote.send request).attempt
      e.sight identifier answer) := by
  -- A look is a fetch and a computation, and so is the sight of an answer after its judgement.
  rw [look, fetch_eq, Run.bind_assoc]
  congr 1
  funext request
  rw [Run.bind_assoc]
  congr 1
  funext answer
  rw [sight, Run.monadLift_bind]
  congr 1
  funext found
  cases found with
  | none => rfl
  | some document =>
    exact (Run.monadLift_bind (e.status? document)
      fun status => .ok (Observation.found status document)).symm

/-- An event is a read of an object, and this was the answer. -/
def IsRead (e : Engine σ) (identifier : String) (answer : Except Failure Response)
    (event : Event) : Prop :=
  ∃ start finish request, e.request e.blueprint.read (some identifier) = .ok request ∧
    event = .call start finish request answer

/-- What reading an object answers and does: it is a single read, unless there is nowhere to
read the object from. -/
inductive Reads (e : Engine σ) (identifier : String) :
    Except Failure (Option Document) → List Event → Prop where
  | nowhere {failure : Failure} :
      e.request e.blueprint.read (some identifier) = .error failure →
      Reads e identifier (.error failure) []
  | once {answer : Except Failure Response} {event : Event} :
      e.IsRead identifier answer event → Reads e identifier (e.judge identifier answer) [event]

/-- A fetch reads the object. -/
theorem fetch_reads (e : Engine σ) (identifier : String) (env : σ) (now : Nat) :
    e.Reads identifier (e.fetch identifier env now).answer
      (e.fetch identifier env now).events := by
  -- The one thing that a fetch does is the request, if that can be formed.
  rw [fetch_eq]
  cases resolved : e.request e.blueprint.read (some identifier) with
  | error failure =>
    rw [Run.monadLift_error_bind, Run.fail_apply]
    exact .nowhere resolved
  | ok request =>
    rw [Run.monadLift_ok_bind, Run.attempt_bind, Run.monadLift_apply]
    exact .once ⟨now, _, request, resolved, rfl⟩

/-- An object that was found or found missing was read once. -/
theorem Reads.of_ok {found : Option Document} {events : List Event}
    (reads : e.Reads identifier (.ok found) events) :
    ∃ answer event, e.IsRead identifier answer event ∧ e.judge identifier answer = .ok found ∧
      events = [event] := by
  -- Without a request there would be a failure.
  generalize answered : (Except.ok found : Except Failure (Option Document)) = judged at reads
  cases reads with
  | nowhere => cases answered
  | once read => exact ⟨_, _, read, rfl, rfl⟩

/-- What a look sees, it sees by a single read of the object. -/
theorem look_of_ok {env : σ} {now : Nat} {observation : Observation Document}
    (seen : (e.look identifier env now).answer = .ok observation) :
    ∃ answer event, e.IsRead identifier answer event ∧
      e.sight identifier answer = .ok observation ∧
      (e.look identifier env now).events = [event] := by
  -- Without a request there is nothing to see, and with one there is exactly one call.
  rw [look_eq] at seen ⊢
  cases resolved : e.request e.blueprint.read (some identifier) with
  | error failure =>
    rw [resolved, Run.monadLift_error_bind] at seen
    cases seen
  | ok request =>
    rw [resolved, Run.monadLift_ok_bind, Run.attempt_bind, Run.monadLift_apply] at seen
    rw [Run.monadLift_ok_bind, Run.attempt_bind, Run.monadLift_apply]
    exact ⟨_, _, ⟨now, _, request, resolved, rfl⟩, seen, rfl⟩

/-- How the answer to a read shows that an object is where a poll wants it. -/
inductive ShowsTarget (e : Engine σ) (spec : PollSpec) (identifier : String) :
    Except Failure Response → Prop where
  | absent {answer : Except Failure Response} : spec.notFoundIsTarget = true →
      e.ShowsAbsent identifier answer → ShowsTarget e spec identifier answer
  | reached {response : Response} {document : Document} {status : String} :
      e.select response.body identifier = .ok (some document) →
      e.status? document = .ok (some status) → status ∉ e.blueprint.goneStates →
      status ∈ spec.target → ShowsTarget e spec identifier (.ok response)

/-- A look that ends a poll with success comes from an answer that shows the target. -/
theorem showsTarget_of_succeeded {spec : PollSpec} {answer : Except Failure Response}
    {observation : Observation Document} {earlier : List (Except Failure (Observation Document))}
    {content : Option Document} (seen : e.sight identifier answer = .ok observation)
    (decided : spec.Decides earlier observation (.succeeded content)) :
    e.ShowsTarget spec identifier answer := by
  -- Absence succeeds only as a target, and an object only by a status that is one.
  unfold sight at seen
  cases judged : e.judge identifier answer with
  | error failure =>
    rw [judged] at seen
    cases seen
  | ok found =>
    rw [judged] at seen
    cases found with
    | none =>
      cases seen
      cases decided with
      | gone target => exact .absent target (judge_eq_none_iff.mp judged)
    | some document =>
      obtain ⟨response, status, rfl, selected, shown, kept⟩ := judge_eq_some_iff.mp judged
      simp only [Bind.bind, Except.bind, shown] at seen
      cases seen
      cases decided with
      | reached target => exact .reached selected shown (kept _ rfl) target

/-- A poll that reaches its target ends with a read of the object that shows it. -/
theorem poll_of_ok {spec : PollSpec} {deadline : Nat} {env : σ} {now : Nat}
    {content : Option Document}
    (reached : (e.poll spec identifier deadline env now).answer = .ok content) :
    ∃ answer event, (e.poll spec identifier deadline env now).events.getLast? = some event ∧
      e.IsRead identifier answer event ∧ e.ShowsTarget spec identifier answer := by
  -- Any verdict but a success makes the poll fail.
  obtain ⟨report, answered, succeeded⟩ := Run.bind_answer_eq_ok.mp reached
  have verdict : report.verdict = .succeeded content := by
    rw [Run.monadLift_apply, Report.result] at succeeded
    split at succeeded
    · rename_i verdict
      cases succeeded
      exact verdict
    · cases succeeded
    · cases succeeded
  -- The last look decided so, and it is a read of the object.
  obtain ⟨before, last, observation, earlier, seen, decided, walked⟩ :=
    PollSpec.run_decided answered (by simp [verdict])
  obtain ⟨answer, event, read, sight, single⟩ := look_of_ok seen
  refine ⟨answer, event, ?_, read, showsTarget_of_succeeded sight (verdict ▸ decided)⟩
  obtain ⟨events, joined⟩ := single ▸ walked
  rw [poll, Run.bind_of_ok answered, Run.monadLift_apply, Outcome.delayed_events, ← joined]
  simp

/-- An event is part of watching an object: a read of it, or a pause. -/
def IsWatch (e : Engine σ) (identifier : String) (event : Event) : Prop :=
  (∃ answer, e.IsRead identifier answer event) ∨ ∃ asleep wake, event = .sleep asleep wake

/-- Reading an object is part of watching it. -/
theorem Reads.isWatch {answer : Except Failure (Option Document)} {events : List Event}
    (reads : e.Reads identifier answer events) : ∀ event ∈ events, e.IsWatch identifier event := by
  -- A read is one event at most.
  cases reads with
  | nowhere => simp
  | once read => simpa using .inl ⟨_, read⟩

/-- A look does what a fetch does. -/
theorem look_events (e : Engine σ) (identifier : String) (env : σ) (now : Nat) :
    (e.look identifier env now).events = (e.fetch identifier env now).events := by
  -- Both send the same request, and only differ in what they make of the answer.
  rw [look_eq, fetch_eq]
  cases e.request e.blueprint.read (some identifier) with
  | error failure => rfl
  | ok request =>
    rw [Run.monadLift_ok_bind, Run.monadLift_ok_bind, Run.attempt_bind, Run.attempt_bind,
      Run.monadLift_apply, Run.monadLift_apply]
    rfl

/-- A look reads the object as a fetch does. -/
theorem look_isWatch (e : Engine σ) (identifier : String) :
    (e.look identifier).Does (e.IsWatch identifier) := by
  -- What happens in a look happens in the fetch.
  intro env now
  rw [look_events]
  exact (e.fetch_reads identifier env now).isWatch

/-- What the poll that follows a step does, and what its success shows. -/
structure Watched (e : Engine σ) (spec : Option PollSpec) (identifier : String)
    (answer : Except Failure Unit) (events : List Event) : Prop where
  watches : ∀ event ∈ events, e.IsWatch identifier event
  /-- The last event of a poll that succeeds is a read that shows the target. -/
  reached : answer = .ok () → ∀ wanted ∈ spec, ∃ shown event, events.getLast? = some event ∧
    e.IsRead identifier shown event ∧ e.ShowsTarget wanted identifier shown

/-- A poll does nothing but watch the object. -/
theorem poll_isWatch (e : Engine σ) (spec : PollSpec) (identifier : String) (deadline : Nat) :
    (e.poll spec identifier deadline).Does (e.IsWatch identifier) :=
  (spec.run_does (e.look_isWatch identifier) (fun asleep wake => .inr ⟨asleep, wake, rfl⟩) _).bind
    fun _ => .monadLift _ _

/-- The poll that follows a step watches the object until it is where it is wanted. -/
theorem pollIfAny_watched (e : Engine σ) (spec : Option PollSpec) (identifier : String)
    (deadline : Nat) (env : σ) (now : Nat) :
    e.Watched spec identifier (e.pollIfAny spec identifier deadline env now).answer
      (e.pollIfAny spec identifier deadline env now).events := by
  -- A poll that answers has succeeded, and then its last look has shown the target.
  cases spec with
  | none => exact ⟨by simp [pollIfAny], fun _ => by simp⟩
  | some spec =>
    have watches := e.poll_isWatch spec identifier deadline env now
    cases answered : (e.poll spec identifier deadline env now).answer with
    | error failure =>
      rw [pollIfAny, Run.bind_of_error answered]
      exact ⟨watches, fun reached => nomatch reached⟩
    | ok content =>
      rw [pollIfAny, Run.bind_of_ok answered, Run.pure_apply, Outcome.delayed_events,
        List.append_nil]
      refine ⟨watches, fun _ wanted member => ?_⟩
      cases member
      exact poll_of_ok answered

end Provision.Engine
