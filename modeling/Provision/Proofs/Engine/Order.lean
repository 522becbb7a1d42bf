import Provision.Engine.Create
import Provision.Proofs.Order
import Provision.Proofs.Poll.Bounds
import Provision.Proofs.Protocol

/-! A new object is identified by the answer to its creation, or, if it is prepaid, by way of its
order: the order is looked up, then it is completed, and then it may have to name the object. -/

namespace Provision

variable {σ τ α β : Type}

/-- A variable that only the first of two runs uses is gone when the second one starts. -/
theorem Run.withVariable_bind (first : Run (τ × σ) α) (next : α → Run σ β) (initial : τ) :
    (first >>= fun between => (next between).beside).withVariable initial =
      first.withVariable initial >>= next := by
  -- The first run keeps the environment beside the variable, and the second gets it from there.
  funext env now
  cases answered : (first (initial, env) now).answer with
  | error failure =>
    have failed : (first.withVariable initial env now).answer = .error failure := answered
    rw [bind_of_error failed, withVariable, bind_of_error answered]
    rfl
  | ok between =>
    have passed : (first.withVariable initial env now).answer = .ok between := answered
    rw [bind_of_ok passed, withVariable, bind_of_ok answered]
    rfl

/-- The completion of an order has no use for a variable beside the environment. -/
theorem Order.awaitCompletion_beside (client : BillingClient σ) (record : OrderRecord)
    (deadline : Nat) : (awaitCompletion client.beside record deadline : Run (τ × σ) OrderRecord) =
      (awaitCompletion client record deadline).beside := by
  -- The completion looks at the clock and makes one call.
  funext env now
  simp only [awaitCompletion, Run.now_bind, Run.beside]
  rw [Run.bind_map, Run.bind_map]
  rfl

namespace Engine

variable {e : Engine σ} {terms : BillingTerms} {created : Option String}

/-- Looks an order up until it appears, starting from what the answer to the creation names. -/
def seek (e : Engine σ) (lookup : Option (Request × String)) (named : Option String)
    (label : String) (deadline : Nat) : Run σ OrderRecord :=
  (Order.awaitOrder label (e.orderLookup lookup) deadline).withVariable named

/-- The order of a prepaid resource is sought and then completed, and asked for its resource if
the answer to the creation has not named that. -/
theorem awaitOrder_eq {client : BillingClient σ} (billed : e.billing = some client)
    (priced : e.blueprint.billing = some terms) (resource : Resource) (answer : Document)
    (created : Option String) (deadline : Nat) :
    e.awaitOrder resource answer created deadline = (do
      let lookup ← e.lookupRequest terms created
      let named ← answer.readText? terms.orderPath
      let record ← e.seek lookup named resource.id.text deadline
      (do let start ← Run.now
          client.complete record.order (deadline - start))
      match created with
      | some identifier => return identifier
      | none => do
        let start ← Run.now
        client.resourceOf record.order (deadline - start)) := by
  rw [awaitOrder, billed, priced]
  dsimp only
  congr 1
  funext lookup
  congr 1
  funext named
  -- The completion is the part of both waits that comes after the variable of the lookups.
  rw [Order.await]
  simp only [Order.awaitCompletion_beside]
  rw [Run.withVariable_bind, Run.bind_assoc, seek]
  congr 1
  funext record
  rw [Order.awaitCompletion, Run.bind_assoc, Run.bind_assoc]
  congr 1
  funext start
  rw [Run.bind_assoc]
  congr 1
  funext _
  exact (Run.pure_bind _ _).trans rfl

/-- An event is part of looking an order up: a request for it, or a pause. -/
def IsLookup (e : Engine σ) (terms : BillingTerms) (created : Option String) (event : Event) :
    Prop :=
  (∃ start finish request path answer,
    e.lookupRequest terms created = .ok (some (request, path)) ∧
      event = .call start finish request answer) ∨
    ∃ asleep wake, event = .sleep asleep wake

/-- How an order is sought: by nothing but lookups, and as the search for it is carried out. -/
structure Seeks (e : Engine σ) (terms : BillingTerms) (created named : Option String)
    (label : String) (deadline : Nat) (answer : Except Failure OrderRecord)
    (events : List Event) : Prop where
  looks : ∀ event ∈ events, e.IsLookup terms created event
  sought : ∃ lookup env now, e.lookupRequest terms created = .ok lookup ∧
    (e.seek lookup named label deadline env now).answer = answer ∧
    (e.seek lookup named label deadline env now).events = events

/-- A lookup sends its request, unless the order is known or there is no request. -/
theorem orderLookup_does {lookup : Option (Request × String)}
    (formed : e.lookupRequest terms created = .ok lookup) :
    (e.orderLookup lookup).Does (e.IsLookup terms created) := by
  -- What is read from the answer takes no events, so the request is all.
  intro env now
  unfold orderLookup
  split
  · simp
  · cases lookup with
    | none => simp
    | some sent =>
      obtain ⟨request, path⟩ := sent
      have sends : (e.remote.send request).Does (e.IsLookup terms created) := by
        intro env now event member
        cases List.mem_singleton.mp member
        exact .inl ⟨now, _, request, path, _, formed, rfl⟩
      exact (sends.bind fun response => .monadLift (response.body.readText? path) _) env.2 now

/-- An order is sought like that. -/
theorem seek_obeys {lookup : Option (Request × String)}
    (formed : e.lookupRequest terms created = .ok lookup) (named : Option String)
    (label : String) (deadline : Nat) :
    (e.seek lookup named label deadline).Obeys (e.Seeks terms created named label deadline) := by
  intro env now
  refine ⟨?_, lookup, env, now, formed, rfl, rfl⟩
  -- The search is a poll whose looks are lookups, and its verdict takes no events.
  have looks : (Order.sight (e.orderLookup lookup)).Does (e.IsLookup terms created) :=
    (orderLookup_does formed).bind fun order => .pure (Order.observe order) _
  have polls := (Order.appearance (deadline - now)).run_does looks
    (fun asleep wake => .inr ⟨asleep, wake, rfl⟩) (some deadline) (named, env) now
  have search : (e.seek lookup named label deadline env now).events =
      (Order.awaitOrder label (e.orderLookup lookup) deadline (named, env) now).events := rfl
  rw [search, Order.awaitOrder_apply]
  exact polls

/-- How an order comes to an identifier: by the answer to the creation if that has one, and else
the billing side is asked for what the order produced. -/
inductive Produces (order : String) (deadline : Nat) : Option String → Protocol String where
  | known {identifier : String} : Produces order deadline (some identifier) (.ok identifier) []
  | asked {answer : Except Failure String} {events : List Event} :
      Bills (fun start => .orderResource order (deadline - start)) answer events →
      Produces order deadline none answer events

/-- How the order of a prepaid resource is waited for: it is sought, then completed with the time
that is left, and then it comes to an identifier. -/
inductive Orders (e : Engine σ) (terms : BillingTerms) (resource : Resource) (answer : Document)
    (created : Option String) (deadline : Nat) : Protocol String where
  | unbilled : e.billing = none →
      Orders e terms resource answer created deadline (.error (.invalidConfiguration
        (resource.id.text ++ ": prepaid resources need a billing client"))) []
  | unformed {failure : Failure} : e.billing.isSome = true →
      e.lookupRequest terms created = .error failure →
      Orders e terms resource answer created deadline (.error failure) []
  | unread {lookup : Option (Request × String)} {failure : Failure} : e.billing.isSome = true →
      e.lookupRequest terms created = .ok lookup →
      answer.readText? terms.orderPath = .error failure →
      Orders e terms resource answer created deadline (.error failure) []
  | placed {named : Option String} {result : Except Failure String} {events : List Event} :
      e.billing.isSome = true → answer.readText? terms.orderPath = .ok named →
      Protocol.andThen (e.Seeks terms created named resource.id.text deadline) (fun record =>
        (Bills (α := Unit) fun start => .waitOrder record.order (deadline - start)).andThen fun _ =>
          Produces record.order deadline created) result events →
      Orders e terms resource answer created deadline result events

/-- The order of a prepaid resource is waited for like that. -/
theorem awaitOrder_obeys (priced : e.blueprint.billing = some terms) (resource : Resource)
    (answer : Document) (created : Option String) (deadline : Nat) :
    (e.awaitOrder resource answer created deadline).Obeys
      (e.Orders terms resource answer created deadline) := by
  -- The failures before the search have no events.
  intro env now
  cases billed : e.billing with
  | none =>
    rw [awaitOrder, billed]
    exact .unbilled billed
  | some client =>
    have known : e.billing.isSome = true := by rw [billed]; rfl
    rw [awaitOrder_eq billed priced]
    cases formed : e.lookupRequest terms created with
    | error failure => exact .unformed known formed
    | ok lookup =>
      cases read : answer.readText? terms.orderPath with
      | error failure => exact .unread known formed read
      | ok named =>
        rw [Run.monadLift_ok_bind, Run.monadLift_ok_bind]
        refine .placed known read ?_
        -- Each of the three parts goes by its own protocol.
        have completes (order : String) := Run.billed_obeys
          (fun start => .waitOrder order (deadline - start))
          fun start => client.waitOrder order (deadline - start)
        have asks (order : String) := Run.billed_obeys
          (fun start => .orderResource order (deadline - start))
          fun start => client.orderResource order (deadline - start)
        refine (seek_obeys formed named _ deadline).bind (fun record => ?_) env now
        refine (completes record.order).bind fun _ => ?_
        cases created with
        | some identifier => exact fun _ _ => .known
        | none => exact fun env now => .asked (asks record.order env now)

/-- An event is part of waiting for the order of a new object, of which the answer to the creation
may have named an identifier. -/
inductive IsOrdering (e : Engine σ) (created : Option String) : Event → Prop where
  | sought {terms : BillingTerms} {event : Event} : e.blueprint.billing = some terms →
      e.IsLookup terms created event → IsOrdering e created event
  | completed {start timeout : Nat} {order : String} {failure : Option Failure}
      {inner : List Event} :
      IsOrdering e created (.billing start (.waitOrder order timeout) failure inner)
  | resolved {start timeout : Nat} {order : String} {failure : Option Failure}
      {inner : List Event} :
      IsOrdering e created (.billing start (.orderResource order timeout) failure inner)

/-- Waiting for an order is nothing else. -/
theorem Orders.isOrdering {resource : Resource} {answer : Document} {deadline : Nat}
    {result : Except Failure String} {events : List Event}
    (priced : e.blueprint.billing = some terms)
    (orders : e.Orders terms resource answer created deadline result events) :
    ∀ event ∈ events, e.IsOrdering created event := by
  cases orders with
  | unbilled | unformed | unread => simp
  | placed _ _ goes =>
    -- The three parts are lookups, one billing call, and perhaps another one.
    refine goes.forall_mem (fun _ _ seeks event member => .sought priced (seeks.looks event member))
      fun record result events rest => ?_
    refine rest.forall_mem (fun _ _ bills => ?_) fun _ _ _ produces => ?_
    · cases bills <;> simpa using .completed
    · cases produces with
      | known => simp
      | asked bills => cases bills <;> simpa using .resolved

/-- Where the completion of an order stands in what happens after a creation was requested: only
lookups come before it, and nothing at all comes after it if it fails. -/
inductive AwaitsOrder (e : Engine σ) (terms : BillingTerms) (created : Option String)
    (deadline : Nat) : List Event → Prop where
  | early {events : List Event} : (∀ event ∈ events, e.IsLookup terms created event) →
      AwaitsOrder e terms created deadline events
  | denied {start : Nat} {order : String} {failure : Failure} {before inner : List Event} :
      (∀ event ∈ before, e.IsLookup terms created event) →
      AwaitsOrder e terms created deadline
        (before ++ [.billing start (.waitOrder order (deadline - start)) (some failure) inner])
  | completed {start : Nat} {order : String} {before inner after : List Event} :
      (∀ event ∈ before, e.IsLookup terms created event) →
      AwaitsOrder e terms created deadline
        (before ++ .billing start (.waitOrder order (deadline - start)) none inner :: after)

/-- The completion of an order stands there, whatever follows an order that was waited for. -/
theorem Orders.awaits {resource : Resource} {answer : Document} {deadline : Nat}
    {result : Except Failure String} {events later : List Event}
    (orders : e.Orders terms resource answer created deadline result events)
    (stops : ∀ failure, result = .error failure → later = []) :
    e.AwaitsOrder terms created deadline (events ++ later) := by
  -- Each way to end before the completion is a failure, and ends everything.
  cases orders with
  | unbilled | unformed | unread =>
    rw [stops _ rfl]
    exact .early (by simp)
  -- Of an order that was placed, each part begins only when the one before has succeeded.
  | placed _ _ goes =>
    cases goes with
    | stopped seeks =>
      rw [stops _ rfl, List.append_nil]
      exact .early seeks.looks
    | passed seeks rest =>
      cases rest with
      | stopped bills =>
        rw [stops _ rfl, List.append_nil]
        cases bills with
        | denied => exact .denied seeks.looks
      | passed bills produces =>
        cases bills with
        | granted =>
          rw [List.append_assoc, List.append_assoc]
          exact .completed seeks.looks

/-- How a new object is identified: directly, or by way of its order if it is prepaid. -/
inductive Identifies (e : Engine σ) (resource : Resource) (answer : Document) (deadline : Nat) :
    Protocol String where
  | unread {failure : Failure} : answer.readText? e.blueprint.idPath = .error failure →
      Identifies e resource answer deadline (.error failure) []
  | missing : e.isPrepaid resource.attributes = false →
      answer.readText? e.blueprint.idPath = .ok none →
      Identifies e resource answer deadline
        (.error (.missingIdentifier e.blueprint.idPath "create")) []
  | named {identifier : String} : e.isPrepaid resource.attributes = false →
      answer.readText? e.blueprint.idPath = .ok (some identifier) →
      Identifies e resource answer deadline (.ok identifier) []
  | ordered {terms : BillingTerms} {created : Option String} {result : Except Failure String}
      {events : List Event} : e.isPrepaid resource.attributes = true →
      e.blueprint.billing = some terms → answer.readText? e.blueprint.idPath = .ok created →
      e.Orders terms resource answer created deadline result events →
      Identifies e resource answer deadline result events

/-- Only kinds with billing terms can be prepaid. -/
theorem exists_terms_of_isPrepaid {attributes : Attributes}
    (prepaid : e.isPrepaid attributes = true) : ∃ terms, e.blueprint.billing = some terms := by
  -- Without terms nothing is taken to be prepaid.
  unfold isPrepaid at prepaid
  split at prepaid
  · rename_i terms priced
    exact ⟨terms, priced⟩
  · cases prepaid

/-- The completion of an order stands there in the identification of something prepaid, too. -/
theorem Identifies.awaits {resource : Resource} {answer : Document} {deadline : Nat}
    {result : Except Failure String} {events later : List Event}
    (identifies : e.Identifies resource answer deadline result events)
    (prepaid : e.isPrepaid resource.attributes = true)
    (stops : ∀ failure, result = .error failure → later = []) :
    ∃ terms created, e.AwaitsOrder terms created deadline (events ++ later) := by
  -- What is not prepaid is identified otherwise, so only an order is left.
  obtain ⟨terms, -⟩ := exists_terms_of_isPrepaid prepaid
  cases identifies with
  | unread =>
    rw [stops _ rfl]
    exact ⟨terms, none, .early (by simp)⟩
  | missing unpaid | named unpaid =>
    rw [prepaid] at unpaid
    cases unpaid
  | ordered _ _ _ orders => exact ⟨_, _, orders.awaits stops⟩

/-- A new object is identified like that. -/
theorem identify_obeys (e : Engine σ) (resource : Resource) (answer : Document)
    (deadline : Nat) : (e.identify resource answer deadline).Obeys
      (e.Identifies resource answer deadline) := by
  -- The answer to the creation is read first, and then it matters who pays when.
  intro env now
  rw [identify]
  cases read : answer.readText? e.blueprint.idPath with
  | error failure => exact .unread read
  | ok created =>
    rw [Run.monadLift_ok_bind]
    cases prepaid : e.isPrepaid resource.attributes with
    | true =>
      obtain ⟨terms, priced⟩ := exists_terms_of_isPrepaid prepaid
      exact .ordered prepaid priced read (awaitOrder_obeys priced resource answer created deadline
        env now)
    | false =>
      rw [if_neg Bool.false_ne_true]
      cases created with
      | some identifier => exact .named prepaid read
      | none => exact .missing prepaid read

end Engine

end Provision
