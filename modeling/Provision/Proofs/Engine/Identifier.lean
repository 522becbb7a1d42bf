import Provision.Catalogue.Volume
import Provision.Catalogue.Vpc
import Provision.Proofs.Engine.Create
import Provision.Script

/-! A creation uses the identifier that the answer to its request names, also if that is empty, and
otherwise the one that the order of something prepaid resolves to. -/

namespace Provision

variable {σ α : Type}

/-- A billing call that went well is recorded as such, and has what happened inside it. -/
theorem Run.billed_of_ok {call : Nat → BillingCall} {run : Nat → Run σ α} {env : σ} {start : Nat}
    {answer : α} (answered :
      ((Run.now >>= fun now => (run now).billed (call now)) env start).answer = .ok answer) :
    (run start env start).answer = .ok answer ∧
      ((Run.now >>= fun now => (run now).billed (call now)) env start).events =
        [.billing start (call start) none (run start env start).events] := by
  -- What is billed looks at the clock first, which takes no time.
  rw [now_bind] at answered ⊢
  have passed : (run start env start).answer = .ok answer := answered
  refine ⟨passed, ?_⟩
  simp only [billed, passed]

namespace Engine

variable {e : Engine σ} {resource : Resource} {identifier : String} {created : Option String}
  {deadline : Nat}

/-- An order resolves to an identifier at the end of some events: it was completed, and then the
billing side gave the identifier of what it produced. -/
inductive ResolvesTo (e : Engine σ) (identifier : String) : List Event → Prop where
  | produced {client : BillingClient σ} {order : String} {env : σ} {start timeout now left : Nat}
      {before completion : List Event} : e.billing = some client →
      (client.orderResource order left env now).answer = .ok identifier →
      ResolvesTo e identifier (before ++
        [ .billing start (.waitOrder order timeout) none completion
        , .billing now (.orderResource order left) none
            (client.orderResource order left env now).events ])

/-- An order comes to the identifier that the answer to the creation named, or else to the one that
it resolves to. -/
theorem awaitOrder_of_ok {answer : Document} {env : σ} {now : Nat}
    (answered : (e.awaitOrder resource answer created deadline env now).answer = .ok identifier) :
    created = some identifier ∨ created = none ∧
      e.ResolvesTo identifier (e.awaitOrder resource answer created deadline env now).events := by
  -- Without a billing side or terms there is no identifier at all.
  cases billed : e.billing with
  | none =>
    rw [awaitOrder, billed] at answered
    cases answered
  | some client =>
    cases priced : e.blueprint.billing with
    | none =>
      rw [awaitOrder, billed, priced] at answered
      cases answered
    | some terms =>
      rw [awaitOrder_eq billed priced] at answered ⊢
      -- The search ends before the billing calls, so these are the last events.
      obtain ⟨lookup, _, _, -, answered, formed⟩ := Run.bind_suffix answered
      obtain ⟨named, _, _, -, answered, read⟩ := Run.bind_suffix answered
      obtain ⟨record, later, instant, -, answered, sought⟩ := Run.bind_suffix answered
      have suffix := sought.trans (read.trans formed)
      cases created with
      | some known =>
        -- The identifier was there from the start.
        obtain ⟨_, -, same⟩ := Run.bind_answer_eq_ok.mp answered
        cases same
        exact .inl rfl
      | none =>
        -- The billing side is called twice, and both calls have to go well.
        dsimp only at answered suffix
        obtain ⟨_, completes, resolves⟩ := Run.bind_answer_eq_ok.mp answered
        obtain ⟨-, completion⟩ := Run.billed_of_ok completes
        obtain ⟨resolved, production⟩ := Run.billed_of_ok resolves
        rw [Run.bind_of_ok completes, Outcome.delayed_events] at suffix
        obtain ⟨before, joined⟩ := suffix
        have events := congrArg (before ++ ·) (congrArg₂ (· ++ ·) completion production)
        rw [show _ = _ from joined.symm.trans events]
        exact .inr ⟨rfl, .produced billed resolved⟩

/-- An event serves a new object under an identifier: a look at it or a pause, its removal, or the
addition of its tags. -/
inductive Serves (e : Engine σ) (resource : Resource) (identifier : String) : Event → Prop where
  | watched {event : Event} : e.IsWatch identifier event → Serves e resource identifier event
  | removed {event : Event} : e.IsRemoval resource identifier event →
      Serves e resource identifier event
  | tagged {start finish : Nat} {tagging : Tagging} {tags : List Document} {request : Request}
      {answer : Except Failure Response} : e.blueprint.tagging = some tagging →
      e.tagRequest tagging identifier "create" tags = .ok request →
      Serves e resource identifier (.call start finish request answer)

/-- The phases of a creation behind the one that makes the object. -/
def finish (e : Engine σ) (resource : Resource) (identifier : String) (deadline : Nat) :
    Run σ State := do
  e.awaitReady resource identifier deadline
  e.tagNew resource identifier
  e.find resource identifier

/-- Waiting for a new object serves it. -/
theorem awaitReady_serves
    (billed : e.isPrepaid resource.attributes = true → e.billing.isSome = true) :
    (e.awaitReady resource identifier deadline).Does (e.Serves resource identifier) := by
  -- The object is watched, and removed at most, if it does not get ready.
  intro env now event member
  have readies := awaitReady_obeys billed identifier deadline env now
  generalize (e.awaitReady resource identifier deadline env now).answer = answer at readies
  generalize (e.awaitReady resource identifier deadline env now).events = events at readies member
  cases readies with
  | ready polls => exact .watched (polls.watches event member)
  | unready polls compensates =>
    rcases List.mem_append.mp member with watched | removal
    · exact .watched (polls.watches event watched)
    · cases compensates with
      | left | unformed => cases removal
      | removed _ isRemoval =>
        cases List.mem_singleton.mp removal
        exact .removed isRemoval

/-- Adding the tags of a new object serves it. -/
theorem tagNew_serves (e : Engine σ) (resource : Resource) (identifier : String) :
    (e.tagNew resource identifier).Does (e.Serves resource identifier) := by
  -- At most one request is sent, which is that of the tags.
  intro env now event member
  have getsTags := e.tagNew_obeys resource identifier env now
  generalize (e.tagNew resource identifier env now).answer = answer at getsTags
  generalize (e.tagNew resource identifier env now).events = events at getsTags member
  cases getsTags with
  | untagged => cases member
  | tagged tagged _ sends =>
    cases sends with
    | unformed => cases member
    | sent formed =>
      cases List.mem_singleton.mp member
      exact .tagged tagged formed

/-- Finding a new object serves it. -/
theorem find_serves (e : Engine σ) (resource : Resource) (identifier : String) :
    (e.find resource identifier).Does (e.Serves resource identifier) := by
  -- The one thing that is done is the read.
  have looks : (e.read resource.id identifier).Does (e.Serves resource identifier) :=
    fun env now event member =>
      .watched ((e.read_obeys resource.id identifier env now).isWatch event member)
  refine looks.bind fun state => ?_
  split
  · exact .pure _ _
  · exact .fail _ _

/-- All later phases of a creation serve the object under its identifier. -/
theorem finish_serves
    (billed : e.isPrepaid resource.attributes = true → e.billing.isSome = true) :
    (e.finish resource identifier deadline).Does (e.Serves resource identifier) :=
  (awaitReady_serves billed).bind fun _ => (e.tagNew_serves resource identifier).bind fun _ =>
    e.find_serves resource identifier

/-- The state of a new object has its identifier. -/
theorem finish_identifier {env : σ} {now : Nat} {state : State}
    (answered : (e.finish resource identifier deadline env now).answer = .ok state) :
    state.identifier = some identifier := by
  -- The state is the one of the last read, which carries over nothing but attributes.
  obtain ⟨_, -, answered⟩ := Run.bind_answer_eq_ok.mp answered
  obtain ⟨_, -, answered⟩ := Run.bind_answer_eq_ok.mp answered
  obtain ⟨read, looked, answered⟩ := Run.bind_answer_eq_ok.mp answered
  split at answered
  · rename_i present
    obtain ⟨shown, -, rfl⟩ := read_of_present looked present
    cases answered
    rfl
  · cases answered

/-- Without an order there is nothing to wait for, and waiting for one is nothing else. -/
theorem identify_isOrdering {answer : Document}
    (named : answer.readText? e.blueprint.idPath = .ok created) (resource : Resource)
    (deadline : Nat) (env : σ) (now : Nat) :
    (e.isPrepaid resource.attributes = false →
        (e.identify resource answer deadline env now).events = []) ∧
      ∀ event ∈ (e.identify resource answer deadline env now).events,
        e.IsOrdering created event := by
  -- Only one of the ways to identify an object does anything, which is to wait for its order.
  have identifies := e.identify_obeys resource answer deadline env now
  generalize (e.identify resource answer deadline env now).answer = result at identifies
  generalize (e.identify resource answer deadline env now).events = events at identifies ⊢
  cases identifies with
  | unread | missing | named => simp
  | ordered prepaid priced read orders =>
    cases named.symm.trans read
    exact ⟨fun unpaid => (nomatch prepaid.symm.trans unpaid), orders.isOrdering priced⟩

/-- A new object is identified by what the answer to its creation names, or else by what its order
resolves to. -/
theorem identify_of_ok {answer : Document}
    (named : answer.readText? e.blueprint.idPath = .ok created) {env : σ} {now : Nat}
    (identified : (e.identify resource answer deadline env now).answer = .ok identifier) :
    created = some identifier ∨ created = none ∧
      e.ResolvesTo identifier (e.identify resource answer deadline env now).events := by
  -- What is prepaid is identified by its order if need be, and all else by the answer alone.
  rw [identify, named, Run.monadLift_ok_bind] at identified ⊢
  cases prepaid : e.isPrepaid resource.attributes with
  | true =>
    rw [prepaid, if_pos rfl] at identified
    rw [if_pos rfl]
    exact awaitOrder_of_ok identified
  | false =>
    rw [prepaid, if_neg Bool.false_ne_true] at identified
    cases created with
    | none => cases identified
    | some known =>
      cases identified
      exact .inl rfl

/-- Something that the answer to its creation identifies is not identified only if it is prepaid. -/
theorem isPrepaid_of_identify_error {answer : Document}
    (named : answer.readText? e.blueprint.idPath = .ok created)
    (able : created = none → e.isPrepaid resource.attributes = true) {env : σ} {now : Nat}
    {failure : Failure}
    (failed : (e.identify resource answer deadline env now).answer = .error failure) :
    e.isPrepaid resource.attributes = true := by
  -- Without an order to wait for, a name in the answer is enough.
  rw [identify, named, Run.monadLift_ok_bind] at failed
  cases created with
  | none => exact able rfl
  | some known =>
    cases prepaid : e.isPrepaid resource.attributes with
    | true => rfl
    | false =>
      rw [prepaid, if_neg Bool.false_ne_true] at failed
      cases failed

/-- What the billing side gives for an order is never empty. -/
def ResolvesProperly (e : Engine σ) : Prop :=
  ∀ client, e.billing = some client → ∀ order left env now,
    (client.orderResource order left env now).answer ≠ .ok ""

/-- What an order resolves to is not empty then. -/
theorem ResolvesTo.ne_empty {events : List Event} (resolvesTo : e.ResolvesTo identifier events)
    (proper : e.ResolvesProperly) : identifier ≠ "" := by
  cases resolvesTo with
  | produced billed resolved =>
    rintro rfl
    exact proper _ billed _ _ _ _ resolved

/--
A creation goes on under the identifier that the answer to its request names, even an empty one.

Where the answer names none, something prepaid has the identifier that its order resolves to, and
all else ends with nothing sent but the request. Whatever follows serves the object under that one
identifier, which is empty exactly if the answer names an empty one. This takes that the billing
side gives no empty identifiers.
-/
theorem create_identifier (e : Engine σ) (wanted : Resource) (proper : e.ResolvesProperly)
    {request : Request} (formed : e.createRequest (e.completed wanted) = .ok request) (env : σ)
    (now : Nat) {response : Response}
    (answered : (e.remote.reply request env).answer = .ok response) :
    let resource := e.completed wanted
    let named := response.body.readText? e.blueprint.idPath
    let reply := e.remote.reply request env
    let sent : Event := .call now (now + reply.delay) request (.ok response)
    let o := e.create wanted env now
    (∀ failure, named = .error failure → o.answer = .error failure ∧ o.events = [sent]) ∧
    (named = .ok none → e.isPrepaid resource.attributes = false →
      o.answer = .error (.missingIdentifier e.blueprint.idPath "create") ∧ o.events = [sent]) ∧
    ∀ created, named = .ok created →
      (created = none → e.isPrepaid resource.attributes = true) →
      ∃ ordered served, o.events = sent :: (ordered ++ served) ∧
        (e.isPrepaid resource.attributes = false → ordered = []) ∧
        (∀ event ∈ ordered, e.IsOrdering created event) ∧
        (e.isPrepaid resource.attributes = true ∧ served = [] ∧
            (∃ failure, o.answer = .error failure) ∨
          ∃ identifier, (created = some identifier ∨
              created = none ∧ e.ResolvesTo identifier ordered) ∧
            (identifier = "" ↔ created = some "") ∧
            (∀ event ∈ served, e.Serves resource identifier event) ∧
            ∀ state, o.answer = .ok state → state.identifier = some identifier) := by
  -- A creation makes the object first, and all that follows is about its identifier.
  intro resource named reply sent o
  let deadline := Instant.after now e.timeouts.create
  have whole : o = (e.make resource deadline >>= fun identifier =>
      e.finish resource identifier deadline) env now := by
    rw [show o = _ from congrFun (congrFun (e.create_eq wanted) env) now, Run.now_bind]
    rfl
  have made := (make_of_request formed deadline env now).2 response answered
  rw [answered] at made
  -- Where no identifier is found, the request is all that was done.
  have stopped {failure : Failure} (fails : e.identify resource response.body deadline =
      Run.fail failure) : o.answer = .error failure ∧ o.events = [sent] := by
    rw [show e.identify (e.completed wanted) response.body deadline = _ from fails,
      Run.fail_apply] at made
    have failed : (e.make resource deadline env now).answer = .error failure := by rw [made]; rfl
    rw [whole, Run.bind_of_error failed, made]
    exact ⟨rfl, rfl⟩
  refine ⟨?_, ?_, ?_⟩
  · intro failure unread
    refine stopped ?_
    rw [identify, show Document.readText? _ _ = _ from unread, Run.monadLift_error_bind]
  · intro missing unpaid
    refine stopped ?_
    rw [identify, show Document.readText? _ _ = _ from missing, Run.monadLift_ok_bind,
      if_neg (by rw [unpaid]; exact Bool.false_ne_true)]
  · -- The answer names an identifier, or there is an order to ask.
    intro created read able
    let identified := e.identify resource response.body deadline reply.env (now + reply.delay)
    obtain ⟨direct, ordering⟩ :=
      identify_isOrdering read resource deadline reply.env (now + reply.delay)
    cases named : identified.answer with
    | error failure =>
      -- An order that comes to nothing ends the creation.
      have failed : (e.make resource deadline env now).answer = .error failure := by
        rw [made, Outcome.delayed_answer]
        exact named
      rw [whole, Run.bind_of_error failed, made]
      have prepaid := isPrepaid_of_identify_error read able named
      refine ⟨identified.events, [], ?_, direct, ordering, .inl ⟨prepaid, rfl, failure, rfl⟩⟩
      rw [List.append_nil]
      rfl
    | ok identifier =>
      -- Otherwise the later phases serve what was identified.
      have passed : (e.make resource deadline env now).answer = .ok identifier := by
        rw [made, Outcome.delayed_answer]
        exact named
      have billed := fun prepaid => billing_of_make prepaid passed
      have source := identify_of_ok read named
      rw [whole, Run.bind_of_ok passed, made]
      refine ⟨identified.events, _, rfl, direct, ordering, .inr ⟨identifier, source, ?_, ?_, ?_⟩⟩
      · rcases source with rfl | ⟨rfl, resolvesTo⟩
        · exact Option.some_inj.symm
        · exact iff_of_false (resolvesTo.ne_empty proper) (Option.some_ne_none _).symm
      · exact finish_serves billed _ _
      · exact fun state finished => finish_identifier finished

/-- A prepaid volume that the answer to its creation does not name is the one that its order
made. -/
theorem create_identifier_resolved :
    let answer : Document := .object
      [("order_id", .string "CS1"), ("volume", .object [("status", .string "available")])]
    let e : Engine Unit :=
      { kind := Catalogue.Volume.kind
        remote := ⟨fun _ env => ⟨.ok ⟨200, answer⟩, 0, env⟩⟩
        billing := some (CannedBilling.client { resource := some "v-1" })
        params := Dict.empty.insert "project_id" "p1" }
    let wanted : Resource := ⟨⟨"hcs_evs_volume", "data"⟩, Dict.ofList
      [ ("availability_zone", .string "az1"), ("volume_type", .string "SSD"), ("size", .int 40)
      , ("charging_mode", .string prepaid), ("period_unit", .string "month"), ("period", .int 1) ]⟩
    let o := e.create wanted () 0
    e.ResolvesProperly ∧ answer.readText? e.blueprint.idPath = .ok none ∧
      ∃ state sent ordered served, o.answer = .ok state ∧ state.identifier = some "v-1" ∧
        o.events = sent :: (ordered ++ served) ∧ e.ResolvesTo "v-1" ordered ∧
        ∀ event ∈ served, e.Serves (e.completed wanted) "v-1" event := by
  -- The canned billing side resolves every order to the same volume.
  intro answer e wanted o
  have proper : e.ResolvesProperly := by
    rintro client ⟨⟩ order left env now empty
    have same : "v-1" = "" := Except.ok.inj empty
    exact absurd same (by decide)
  have requested : (e.createRequest (e.completed wanted)).toOption.isSome = true := by
    decide +kernel
  obtain ⟨request, formed⟩ := exists_ok_of_isSome requested
  have ends : o.answer.toOption.isSome = true := by decide +kernel
  obtain ⟨state, answered⟩ := exists_ok_of_isSome ends
  -- The answer shows a volume without an identifier.
  have unnamed : (answer.readText? e.blueprint.idPath).toOption.any Option.isNone = true := by
    decide +kernel
  have prepaid : e.isPrepaid (e.completed wanted).attributes = true := by decide +kernel
  have named : answer.readText? e.blueprint.idPath = .ok none := by
    obtain ⟨created, read, none⟩ := exists_ok_of_any unnamed
    rw [read, Option.isNone_iff_eq_none.mp none]
  -- The creation succeeds, so an identifier was found, and the answer has none.
  obtain ⟨-, -, goes⟩ := create_identifier e wanted proper formed () 0 rfl
  obtain ⟨ordered, served, events, -, -, ⟨-, -, failure, failed⟩ | ⟨identifier, source, -, serves,
    identifies⟩⟩ := goes none named fun _ => prepaid
  · cases answered.symm.trans failed
  · rcases source with known | ⟨-, resolvesTo⟩
    · cases known
    · have same : identifier = "v-1" := by
        obtain ⟨billed, resolved⟩ := resolvesTo
        cases billed
        exact (Except.ok.inj resolved).symm
      subst same
      exact ⟨proper, named, state, _, ordered, served, answered, identifies state answered, events,
        resolvesTo, serves⟩

/-- A creation does not give up something whose answer names an empty identifier. -/
theorem create_accepts_empty_identifier :
    ¬∀ (e : Engine Unit) (wanted : Resource) (env : Unit) (now : Nat) (request : Request)
      (response : Response), e.isPrepaid (e.completed wanted).attributes = false →
      e.createRequest (e.completed wanted) = .ok request →
      (e.remote.reply request env).answer = .ok response →
      (∀ identifier, response.body.readText? e.blueprint.idPath = .ok (some identifier) →
        identifier = "") →
      ∃ failure, (e.create wanted env now).answer = .error failure := by
  -- A network whose answer has an empty identifier is read under that, and found.
  intro gives
  let vpc : Document := .object
    [("vpc", .object [("id", .string ""), ("name", .string "net"), ("status", .string "OK")])]
  let e : Engine Unit :=
    { kind := Catalogue.Vpc.kind
      remote := ⟨fun _ env => ⟨.ok ⟨200, vpc⟩, 0, env⟩⟩
      params := Dict.empty.insert "project_id" "p1" }
  let wanted : Resource := ⟨⟨"hcs_vpc", "main"⟩, Dict.ofList
    [("name", .string "net"), ("cidr", .string "192.168.0.0/16")]⟩
  -- The request is formed, and the creation succeeds although the identifier is empty.
  have requested : (e.createRequest (e.completed wanted)).toOption.isSome = true := by
    decide +kernel
  obtain ⟨request, formed⟩ := exists_ok_of_isSome requested
  have ends : (e.create wanted () 0).answer.toOption.isSome = true := by decide +kernel
  obtain ⟨state, answered⟩ := exists_ok_of_isSome ends
  have named : (vpc.readText? e.blueprint.idPath).toOption = some (some "") := by decide +kernel
  have empty : ∀ identifier, vpc.readText? e.blueprint.idPath = .ok (some identifier) →
      identifier = "" := by
    intro identifier read
    rw [read] at named
    exact Option.some.inj (Option.some.inj named)
  -- The premises hold of this answer, so there would be a failure besides the success.
  obtain ⟨failure, failed⟩ := gives e wanted () 0 request ⟨200, vpc⟩ rfl formed rfl empty
  cases answered.symm.trans failed

end Engine

end Provision
