import Provision.Proofs.Engine.Delete
import Provision.Proofs.Engine.Order
import Provision.Proofs.Engine.Plan
import Provision.Proofs.Engine.Stage

/-! A creation goes through its phases in order, up to the first that fails: the object is made and
identified, and then it has to get ready, gets its tags, and is read. -/

namespace Provision

variable {σ : Type}

/-- A test that all entries pass leaves a dictionary as it is. -/
theorem Dict.filter_true {α : Type} (d : Dict α) : d.filter (fun _ _ => true) = d := by
  -- The list of entries is filtered by a test that all pass.
  cases d
  simp [Dict.filter]

/-- Where there were no tags, none are removed and all are added. -/
theorem Tags.diff_none (new : Option Value) : Tags.diff none new = ([], Tags.build new) := by
  -- Nothing agrees with a tag that is not there.
  have added : (entriesOf new).filter (fun key value =>
      !value.agreesWith ((entriesOf none).get? key)) = entriesOf new := Dict.filter_true _
  simp only [Tags.diff, added]
  rfl

namespace Engine

variable {e : Engine σ} {resource : Resource} {identifier : String} {deadline : Nat}

/-- An event is a removal of an object: the request of its kind, or the end of its subscription if
it is prepaid. -/
inductive IsRemoval (e : Engine σ) (resource : Resource) (identifier : String) : Event → Prop where
  | deleted {start finish : Nat} {request : Request} {answer : Except Failure Response} :
      e.isPrepaid resource.attributes = false →
      e.request e.blueprint.delete (some identifier) = .ok request →
      IsRemoval e resource identifier (.call start finish request answer)
  | unsubscribed {start : Nat} {failure : Option Failure} {inner : List Event} :
      e.isPrepaid resource.attributes = true →
      IsRemoval e resource identifier (.billing start (.unsubscribe [identifier]) failure inner)

/-- What is done about a new object that does not get ready: one removal, whatever its answer, or
nothing if the kind leaves the object in place or there is no request that removes it. -/
inductive Compensates (e : Engine σ) (resource : Resource) (identifier : String) :
    List Event → Prop where
  | left : e.blueprint.compensation = .orphan → Compensates e resource identifier []
  | unformed {failure : Failure} : e.blueprint.compensation = .remove →
      e.isPrepaid resource.attributes = false →
      e.request e.blueprint.delete (some identifier) = .error failure →
      Compensates e resource identifier []
  | removed {event : Event} : e.blueprint.compensation = .remove →
      e.IsRemoval resource identifier event → Compensates e resource identifier [event]

/-- A compensation goes one of these ways, and never fails. -/
theorem compensate_compensates
    (billed : e.isPrepaid resource.attributes = true → e.billing.isSome = true) (env : σ)
    (now : Nat) :
    (e.compensate resource identifier env now).answer = .ok () ∧
      e.Compensates resource identifier (e.compensate resource identifier env now).events := by
  -- The failure of a removal is passed over.
  unfold compensate
  cases policy : e.blueprint.compensation with
  | orphan => exact ⟨rfl, .left policy⟩
  | remove =>
    refine ⟨rfl, ?_⟩
    dsimp only
    rw [Run.attempt_bind, Outcome.delayed_events, Run.pure_apply, List.append_nil]
    cases prepaid : e.isPrepaid resource.attributes with
    | true =>
      -- A billing side is there, so the end of the subscription is asked for.
      rcases e.remove_prepaid identifier env now with ⟨failure, -, refuses⟩ | ⟨-, -, inner, events⟩
      · generalize (e.remove identifier true env now).events = events at refuses ⊢
        cases refuses with
        | unbilled missing =>
          rw [missing] at billed
          cases billed prepaid
        | failed => exact .removed policy (.unsubscribed prepaid)
      · rw [events]
        exact .removed policy (.unsubscribed prepaid)
    | false =>
      rw [remove, if_neg Bool.false_ne_true]
      -- Otherwise it takes a request, which may fail to be formed.
      cases formed : e.request e.blueprint.delete (some identifier) with
      | error failure => exact .unformed policy prepaid formed
      | ok request =>
        rw [Run.monadLift_ok_bind, Run.bind_map]
        exact .removed policy (.deleted prepaid formed)

/-- How a new object is waited for until it is ready: by the poll of its kind, after whose failure
the object may be removed. -/
inductive Readies (e : Engine σ) (resource : Resource) (identifier : String) (deadline : Nat) :
    Protocol Unit where
  | ready {watched : List Event} :
      e.Polls e.blueprint.createPoll identifier deadline (.ok ()) watched →
      Readies e resource identifier deadline (.ok ()) watched
  | unready {failure : Failure} {watched removal : List Event} :
      e.Polls e.blueprint.createPoll identifier deadline (.error failure) watched →
      e.Compensates resource identifier removal →
      Readies e resource identifier deadline (.error failure) (watched ++ removal)

/-- A new object that does not get ready is compensated for, and its poll's failure stays. -/
theorem awaitReady_of_unready
    (billed : e.isPrepaid resource.attributes = true → e.billing.isSome = true) {env : σ}
    {now : Nat} {failure : Failure}
    (unready : (e.pollIfAny e.blueprint.createPoll identifier deadline env now).answer =
      .error failure) :
    (e.awaitReady resource identifier deadline env now).answer = .error failure ∧
      ∃ removal, e.Compensates resource identifier removal ∧
        (e.awaitReady resource identifier deadline env now).events =
          (e.pollIfAny e.blueprint.createPoll identifier deadline env now).events ++ removal := by
  -- A compensation never fails, so what comes out is the failure of the poll.
  let polled := e.pollIfAny e.blueprint.createPoll identifier deadline env now
  obtain ⟨quiet, compensates⟩ := compensate_compensates billed
    polled.env (now + polled.elapsed)
  rw [awaitReady, Run.attempt_bind, unready]
  dsimp only
  rw [Run.bind_of_ok quiet, Run.fail_apply, Outcome.delayed_answer, Outcome.delayed_events]
  refine ⟨rfl, _, compensates, ?_⟩
  rw [Outcome.delayed_events, List.append_nil]

/-- A new object that gets ready is polled for, and nothing else. -/
theorem awaitReady_of_ready (resource : Resource) {env : σ} {now : Nat}
    (ready : (e.pollIfAny e.blueprint.createPoll identifier deadline env now).answer = .ok ()) :
    (e.awaitReady resource identifier deadline env now).answer = .ok () ∧
      (e.awaitReady resource identifier deadline env now).events =
        (e.pollIfAny e.blueprint.createPoll identifier deadline env now).events := by
  -- Nothing follows the poll when it succeeds.
  rw [awaitReady, Run.attempt_bind, ready]
  dsimp only
  rw [Run.pure_apply, Outcome.delayed_answer, Outcome.delayed_events, List.append_nil]
  exact ⟨rfl, rfl⟩

/-- A new object is waited for like that. -/
theorem awaitReady_obeys
    (billed : e.isPrepaid resource.attributes = true → e.billing.isSome = true)
    (identifier : String) (deadline : Nat) :
    (e.awaitReady resource identifier deadline).Obeys
      (e.Readies resource identifier deadline) := by
  -- Whether there is anything to compensate for is up to how the poll ends.
  intro env now
  have polls := e.pollIfAny_obeys e.blueprint.createPoll identifier deadline env now
  cases answered : (e.pollIfAny e.blueprint.createPoll identifier deadline env now).answer with
  | ok =>
    obtain ⟨passed, events⟩ := awaitReady_of_ready resource answered
    rw [passed, events]
    exact .ready (answered ▸ polls)
  | error failure =>
    obtain ⟨failed, removal, compensates, events⟩ := awaitReady_of_unready billed answered
    rw [failed, events]
    exact .unready (answered ▸ polls) compensates

/-- How a new object gets its tags: by one request that adds them, unless there are none. -/
inductive GetsTags (e : Engine σ) (resource : Resource) (identifier : String) :
    Protocol Unit where
  | untagged : (∀ tagging, e.blueprint.tagging = some tagging →
        Tags.build (resource.get? tagging.name) = []) →
      GetsTags e resource identifier (.ok ()) []
  | tagged {tagging : Tagging} {reply : Except Failure Response} {events : List Event} :
      e.blueprint.tagging = some tagging → Tags.build (resource.get? tagging.name) ≠ [] →
      Sends (e.tagRequest tagging identifier "create"
        (Tags.build (resource.get? tagging.name))) reply events →
      GetsTags e resource identifier (reply.map fun _ => ()) events

/-- A new object gets its tags like that. -/
theorem tagNew_obeys (e : Engine σ) (resource : Resource) (identifier : String) :
    (e.tagNew resource identifier).Obeys (e.GetsTags resource identifier) := by
  -- A kind without tags has nothing to add.
  intro env now
  unfold tagNew
  cases tagged : e.blueprint.tagging with
  | none => exact .untagged fun tagging other => nomatch tagged.symm.trans other
  | some tagging =>
    dsimp only
    -- There is nothing to remove, so the additions are all.
    rw [applyTags, Tags.diff_none]
    dsimp only
    rw [tagAction_eq_ite, if_pos List.isEmpty_nil, Run.pure_bind, tagAction_eq_ite]
    by_cases empty : Tags.build (resource.get? tagging.name) = []
    · rw [if_pos (List.isEmpty_iff.mpr empty)]
      refine .untagged fun other same => ?_
      cases tagged.symm.trans same
      exact empty
    · rw [if_neg (by simpa using empty), Run.bind_map]
      exact .tagged tagged empty (e.remote.send_obeys _ env now)

/-- How a new object is found in the end: by a read that has to show that it is there. -/
inductive Finds (e : Engine σ) (resource : Resource) (identifier : String) :
    Protocol State where
  | unread {failure : Failure} {looked : List Event} :
      e.Shows resource.id identifier (.error failure) looked →
      Finds e resource identifier (.error failure) looked
  | vanished {state : State} {looked : List Event} :
      e.Shows resource.id identifier (.ok state) looked → state.present = false →
      Finds e resource identifier (.error (.resourceGone (e.descriptor identifier).text)) looked
  | found {state : State} {looked : List Event} :
      e.Shows resource.id identifier (.ok state) looked → state.present = true →
      Finds e resource identifier (.ok (e.carryOver state resource)) looked

/-- Reads a new object, which has to be there. -/
def find (e : Engine σ) (resource : Resource) (identifier : String) : Run σ State := do
  let state ← e.read resource.id identifier
  if state.present then return e.carryOver state resource
  else Run.fail (.resourceGone (e.descriptor identifier).text)

/-- A new object is found like that. -/
theorem find_obeys (e : Engine σ) (resource : Resource) (identifier : String) :
    (e.find resource identifier).Obeys (e.Finds resource identifier) := by
  -- A read that finds nothing is no failure by itself, but it is one of a creation.
  intro env now
  have shows := e.read_obeys resource.id identifier env now
  unfold find
  cases answered : (e.read resource.id identifier env now).answer with
  | error failure =>
    rw [Run.bind_of_error answered]
    exact .unread (answered ▸ shows)
  | ok state =>
    rw [Run.bind_of_ok answered]
    cases present : state.present with
    | true =>
      rw [if_pos rfl, Run.pure_apply, Outcome.delayed_answer, Outcome.delayed_events,
        List.append_nil]
      exact .found (answered ▸ shows) present
    | false =>
      rw [if_neg Bool.false_ne_true, Run.fail_apply, Outcome.delayed_answer,
        Outcome.delayed_events, List.append_nil]
      exact .vanished (answered ▸ shows) present

/-- Makes an object and identifies it. -/
def make (e : Engine σ) (resource : Resource) (deadline : Nat) : Run σ String := do
  let response ← (do
    let request ← e.createRequest resource
    e.remote.send request)
  e.identify resource response.body deadline

/-- An object is made by one request, whose answer has to identify it. -/
theorem make_of_request {request : Request} (formed : e.createRequest resource = .ok request)
    (deadline : Nat) (env : σ) (now : Nat) :
    let reply := e.remote.reply request env
    let sent : Event := .call now (now + reply.delay) request reply.answer
    (∀ failure, reply.answer = .error failure → e.make resource deadline env now =
      ⟨.error failure, reply.env, reply.delay, [sent]⟩) ∧
    ∀ response, reply.answer = .ok response → e.make resource deadline env now =
      (e.identify resource response.body deadline reply.env (now + reply.delay)).delayed
        reply.delay [sent] := by
  -- The answer to the request is all that the identification depends on.
  intro reply sent
  rw [make, formed, Run.monadLift_ok_bind]
  constructor
  · intro failure failed
    have answered : (e.remote.send request env now).answer = .error failure := failed
    rw [Run.bind_of_error answered]
    rfl
  · intro response succeeded
    have answered : (e.remote.send request env now).answer = .ok response := succeeded
    rw [Run.bind_of_ok answered]
    rfl

/-- How an object is made: by one request, whose answer identifies it. -/
def Makes (e : Engine σ) (resource : Resource) (deadline : Nat) : Protocol String :=
  (Sends (e.createRequest resource)).andThen fun response =>
    e.Identifies resource response.body deadline

/-- An object is made like that. -/
theorem make_obeys (e : Engine σ) (resource : Resource) (deadline : Nat) :
    (e.make resource deadline).Obeys (e.Makes resource deadline) :=
  (e.remote.send_obeys _).bind fun response => e.identify_obeys resource response.body deadline

/-- How a creation goes: the phases follow each other up to the first that fails. -/
def Creates (e : Engine σ) (resource : Resource) (deadline : Nat) : Protocol State :=
  (e.Makes resource deadline).andThen fun identifier =>
    (e.Readies resource identifier deadline).andThen fun _ =>
      (e.GetsTags resource identifier).andThen fun _ => e.Finds resource identifier

/-- Creates the object of a resource that has its defaults, in phases. -/
def createUntil (e : Engine σ) (resource : Resource) (deadline : Nat) : Run σ State := do
  let identifier ← e.make resource deadline
  e.awaitReady resource identifier deadline
  e.tagNew resource identifier
  e.find resource identifier

/-- A creation gives the resource its defaults, and then goes through the phases. -/
theorem create_eq (e : Engine σ) (wanted : Resource) : e.create wanted = (do
    let start ← Run.now
    e.createUntil (e.completed wanted) (Instant.after start e.timeouts.create)) := by
  -- The two differ in how the steps are bracketed.
  unfold create createUntil make
  congr 1
  funext start
  rw [Run.bind_assoc, Run.bind_assoc]
  rfl

/-- Something prepaid is only made with a billing side. -/
theorem billing_of_make {env : σ} {now : Nat} (prepaid : e.isPrepaid resource.attributes = true)
    (made : (e.make resource deadline env now).answer = .ok identifier) :
    e.billing.isSome = true := by
  -- Something prepaid is identified by its order, which takes a billing side.
  obtain ⟨response, -, identified⟩ := Run.bind_answer_eq_ok.mp made
  exact billing_of_identify prepaid identified

/-- The phases of a creation go like that. -/
theorem createUntil_obeys (e : Engine σ) (resource : Resource) (deadline : Nat) :
    (e.createUntil resource deadline).Obeys (e.Creates resource deadline) := by
  intro env now
  refine Run.bind_goes (e.make_obeys resource deadline env now) fun identifier made => ?_
  -- The object has been made, so there is a billing side if it has to be unsubscribed.
  have readies := awaitReady_obeys (fun prepaid => billing_of_make prepaid made) identifier deadline
  exact readies.bind fun _ => (e.tagNew_obeys _ identifier).bind fun _ => e.find_obeys _ identifier

/-- There is no creation request exactly if the resource has faults, the path has a name without a
parameter, or the body cannot be built. -/
theorem createRequest_fails_iff : (∃ failure, e.createRequest resource = .error failure) ↔
    e.kind.schema.faults resource.attributes ≠ [] ∨
      (∃ failure, e.request e.blueprint.create none = .error failure) ∨
      ∃ failure, e.kind.body .create resource = .error failure := by
  -- The three parts are checked in this order, and any one of them is enough.
  rw [createRequest, validate_eq]
  by_cases sound : e.kind.schema.faults resource.attributes = []
  · rw [if_pos sound]
    cases e.request e.blueprint.create none with
    | error failure => simp [Bind.bind, Except.bind]
    | ok request =>
      cases e.kind.body .create resource with
      | error failure => simp [Bind.bind, Except.bind]
      | ok body => simp [Bind.bind, Except.bind, Pure.pure, Except.pure, sound]
  · -- With faults nothing further is tried.
    rw [if_neg sound]
    simp [Bind.bind, Except.bind, sound]

/-- A creation begins with its request, or without one does nothing. -/
theorem Creates.first {answer : Except Failure State} {events : List Event}
    (creates : e.Creates resource deadline answer events) :
    (∃ failure, e.createRequest resource = .error failure ∧ events = []) ∨
      ∃ start finish request reply rest, e.createRequest resource = .ok request ∧
        events = .call start finish request reply :: rest := by
  -- The request is the first part of the first phase, however far the creation goes.
  cases creates with
  | stopped makes =>
    cases makes with
    | stopped sends =>
      cases sends with
      | unformed unformed => exact .inl ⟨_, unformed, rfl⟩
      | sent formed => exact .inr ⟨_, _, _, _, [], formed, rfl⟩
    | passed sends =>
      obtain ⟨start, finish, request, formed, rfl⟩ := sends.of_ok
      exact .inr ⟨start, finish, request, _, _, formed, rfl⟩
  | passed makes =>
    obtain ⟨_, _, _, sends, _, rfl⟩ := makes.of_ok
    obtain ⟨start, finish, request, formed, rfl⟩ := sends.of_ok
    exact .inr ⟨start, finish, request, _, _, formed, rfl⟩

/-- In the creation of something prepaid, the completion of the order stands right after the request
and the lookups. -/
theorem Creates.awaits {answer : Except Failure State} {made : Event} {rest : List Event}
    (creates : e.Creates resource deadline answer (made :: rest))
    (prepaid : e.isPrepaid resource.attributes = true) :
    ∃ terms created, e.AwaitsOrder terms created deadline rest := by
  -- Whatever phase the creation stops in, the identification comes right after the request.
  generalize whole : made :: rest = events at creates
  cases creates with
  | stopped makes =>
    cases makes with
    | stopped sends =>
      cases sends with
      | unformed => cases whole
      | sent =>
        cases whole
        obtain ⟨terms, -⟩ := exists_terms_of_isPrepaid prepaid
        exact ⟨terms, none, .early (by simp)⟩
    | passed sends identifies =>
      obtain ⟨_, _, _, -, rfl⟩ := sends.of_ok
      cases whole
      have awaits := identifies.awaits prepaid fun _ _ => rfl
      rwa [List.append_nil] at awaits
  | passed makes =>
    -- Here the order was complete before the later phases began.
    obtain ⟨_, _, _, sends, identifies, rfl⟩ := makes.of_ok
    obtain ⟨_, _, _, -, rfl⟩ := sends.of_ok
    cases whole
    exact identifies.awaits prepaid fun _ failed => nomatch failed

/-- A new object that got ready was seen in a target state, if the kind polls for one. -/
theorem Readies.of_ok {watched : List Event}
    (readies : e.Readies resource identifier deadline (.ok ()) watched) :
    e.Reached e.blueprint.createPoll identifier watched := by
  -- A compensation would have left a failure.
  cases readies with
  | ready polls => exact polls.reached rfl

/-- A new object that was found was read and seen to be there. -/
theorem Finds.of_ok {state : State} {looked : List Event}
    (finds : e.Finds resource identifier (.ok state) looked) :
    ∃ reply event shown, looked = [event] ∧ e.IsRead identifier reply event ∧
      e.recognise resource.id identifier reply = .ok shown ∧ shown.present = true ∧
      state = e.carryOver shown resource := by
  -- Of the three ways only the one that found the object answers a state.
  cases finds with
  | found shows present =>
    obtain ⟨reply, event, read, recognised, rfl⟩ := shows.of_ok
    exact ⟨reply, event, _, rfl, read, recognised, present, rfl⟩

/--
A creation goes through its phases in order, and a failure ends it where it happens.

Without a request nothing is done at all. Something prepaid is not polled, tagged or read before its
order is complete. A state is only answered when every phase went well and the last read found the
object.
-/
theorem create_in_phases (e : Engine σ) (wanted : Resource) (env : σ) (now : Nat) :
    let o := e.create wanted env now
    let resource := e.completed wanted
    let deadline := Instant.after now e.timeouts.create
    e.Creates resource deadline o.answer o.events ∧
      (o.events = [] ↔ e.kind.schema.faults resource.attributes ≠ [] ∨
        (∃ failure, e.request e.blueprint.create none = .error failure) ∨
        ∃ failure, e.kind.body .create resource = .error failure) ∧
      (e.isPrepaid resource.attributes = true → ∀ made rest, o.events = made :: rest →
        ∃ terms created, e.AwaitsOrder terms created deadline rest) ∧
      ∀ state, o.answer = .ok state →
        ∃ start finish request response identifier identified watched tagged reply looked shown,
          o.events =
            .call start finish request (.ok response) ::
              (identified ++ (watched ++ (tagged ++ [looked]))) ∧
          e.createRequest resource = .ok request ∧
          e.Identifies resource response.body deadline (.ok identifier) identified ∧
          e.Reached e.blueprint.createPoll identifier watched ∧
          e.GetsTags resource identifier (.ok ()) tagged ∧
          e.IsRead identifier reply looked ∧
          e.recognise resource.id identifier reply = .ok shown ∧ shown.present = true ∧
          state = e.carryOver shown resource := by
  -- The phases follow from how the creation goes, and a success from each of them in turn.
  intro o resource deadline
  have creates : e.Creates resource deadline o.answer o.events := by
    simp only [o, create_eq, Run.now_bind]
    exact e.createUntil_obeys resource deadline env now
  refine ⟨creates, ?_, ?_, ?_⟩
  · rw [← createRequest_fails_iff]
    rcases creates.first with ⟨failure, unformed, empty⟩ | ⟨_, _, _, _, _, formed, events⟩
    · exact iff_of_true empty ⟨failure, unformed⟩
    · rw [events, formed]
      simp
  · intro prepaid made rest events
    rw [events] at creates
    exact creates.awaits prepaid
  · intro state answered
    rw [answered] at creates
    obtain ⟨identifier, _, _, makes, waits, joined⟩ := Protocol.andThen.of_ok creates
    obtain ⟨response, _, identified, sends, identifies, rfl⟩ := makes.of_ok
    obtain ⟨start, finish, request, formed, rfl⟩ := sends.of_ok
    obtain ⟨_, watched, _, readies, tags, rfl⟩ := waits.of_ok
    obtain ⟨_, tagged, _, getsTags, finds, rfl⟩ := tags.of_ok
    obtain ⟨reply, looked, shown, rfl, read, recognised, present, same⟩ := finds.of_ok
    refine ⟨start, finish, request, response, identifier, identified, watched, tagged, reply,
      looked, shown, ?_, formed, identifies, readies.of_ok, getsTags, read, recognised, present,
      same⟩
    simp [joined]

/-- A prepaid volume is created in phases, and its order is waited for before it is watched. -/
theorem create_in_phases_prepaid :
    let volume : Document :=
      .object
        [ ("order_id", .string "CS1"), ("volume_ids", .array [.string "v-1"])
        , ("volume", .object [("status", .string "available")]) ]
    let e : Engine Unit :=
      { kind := Catalogue.Volume.kind
        remote := ⟨fun _ env => ⟨.ok ⟨200, volume⟩, 0, env⟩⟩
        billing := some (CannedBilling.client {})
        params := Dict.empty.insert "project_id" "p1" }
    let wanted : Resource := ⟨⟨"hcs_evs_volume", "data"⟩, Dict.ofList
      [ ("availability_zone", .string "az1"), ("volume_type", .string "SSD"), ("size", .int 40)
      , ("charging_mode", .string prepaid), ("period_unit", .string "month"), ("period", .int 1) ]⟩
    let o := e.create wanted () 0
    let deadline := Instant.after 0 e.timeouts.create
    e.isPrepaid (e.completed wanted).attributes = true ∧
      ∃ state made rest terms created identifier watched, o.answer = .ok state ∧
        o.events = made :: rest ∧ e.AwaitsOrder terms created deadline rest ∧
        e.Reached e.blueprint.createPoll identifier watched ∧ watched <:+: rest := by
  intro volume e wanted o deadline
  have paid : e.isPrepaid (e.completed wanted).attributes = true := by decide +kernel
  have ends : o.answer.toOption.isSome = true := by decide +kernel
  obtain ⟨state, answered⟩ := exists_ok_of_isSome ends
  obtain ⟨-, -, awaits, succeeds⟩ := create_in_phases e wanted () 0
  obtain ⟨_, _, _, _, identifier, identified, watched, tagged, _, looked, _, events, phases⟩ :=
    succeeds state answered
  obtain ⟨terms, created, waited⟩ := awaits paid _ _ events
  exact ⟨paid, state, _, _, terms, created, identifier, watched, answered, events, waited,
    phases.2.2.1, identified, tagged ++ [looked], by simp⟩

end Engine

end Provision
