import Provision.Catalogue
import Provision.Proofs.Engine.Create

/-! A creation removes at most the object that it made, as its last act, and only because the object
did not get ready. -/

namespace Provision.Engine

variable {σ : Type} {e : Engine σ} {resource wanted : Resource} {identifier : String}
  {deadline : Nat}

/-- An event is a step towards a new object, and no removal: the request that makes it, what is done
about its order, watching it, or adding its tags. -/
inductive IsProgress (e : Engine σ) (resource : Resource) : Event → Prop where
  | made {start finish : Nat} {request : Request} {answer : Except Failure Response} :
      e.createRequest resource = .ok request →
      IsProgress e resource (.call start finish request answer)
  | sought {terms : BillingTerms} {created : Option String} {event : Event} :
      e.blueprint.billing = some terms → e.IsLookup terms created event →
      IsProgress e resource event
  | completed {start timeout : Nat} {order : String} {failure : Option Failure}
      {inner : List Event} :
      IsProgress e resource (.billing start (.waitOrder order timeout) failure inner)
  | produced {start timeout : Nat} {order : String} {failure : Option Failure}
      {inner : List Event} :
      IsProgress e resource (.billing start (.orderResource order timeout) failure inner)
  | watched {identifier : String} {event : Event} : e.IsWatch identifier event →
      IsProgress e resource event
  | tagged {start finish : Nat} {tagging : Tagging} {identifier : String} {tags : List Document}
      {request : Request} {answer : Except Failure Response} :
      e.blueprint.tagging = some tagging →
      e.tagRequest tagging identifier "create" tags = .ok request →
      IsProgress e resource (.call start finish request answer)

/-- Waiting for an order is progress. -/
theorem IsOrdering.isProgress {created : Option String} {event : Event}
    (ordering : e.IsOrdering created event) : e.IsProgress resource event := by
  -- Each sort of waiting is a sort of progress.
  cases ordering with
  | sought priced looks => exact .sought priced looks
  | completed => exact .completed
  | resolved => exact .produced

/-- Making an object is progress. -/
theorem Makes.isProgress {answer : Except Failure String} {events : List Event}
    (makes : e.Makes resource deadline answer events) :
    ∀ event ∈ events, e.IsProgress resource event := by
  -- The request is the creation itself, and only an order takes more than that.
  refine makes.forall_mem (fun _ _ sends => ?_) fun response answer events identifies => ?_
  · cases sends with
    | unformed => simp
    | sent formed => simpa using .made formed
  · cases identifies with
    | unread | missing | named => simp
    | ordered _ priced _ orders =>
      exact fun event member => (orders.isOrdering priced event member).isProgress

/-- Adding tags is progress. -/
theorem GetsTags.isProgress {answer : Except Failure Unit} {events : List Event}
    (getsTags : e.GetsTags resource identifier answer events) :
    ∀ event ∈ events, e.IsProgress resource event := by
  -- There is one request, which is a tag action, or none.
  cases getsTags with
  | untagged => simp
  | tagged tagged _ sends =>
    cases sends with
    | unformed => simp
    | sent formed => simpa using .tagged tagged formed

/-- Finding an object is progress. -/
theorem Finds.isProgress {answer : Except Failure State} {events : List Event}
    (finds : e.Finds resource identifier answer events) :
    ∀ event ∈ events, e.IsProgress resource event := by
  -- However the read ends, reading is watching.
  cases finds with
  | unread shows | vanished shows | found shows =>
    exact fun event member => .watched (shows.isWatch event member)

/-- An object is to be removed if it does not get ready: its kind says so, and the request for it
can be formed, unless the object is prepaid, for then its subscription is ended instead. -/
structure IsRemovable (e : Engine σ) (resource : Resource) (identifier : String) : Prop where
  policy : e.blueprint.compensation = .remove
  formed : e.isPrepaid resource.attributes = false →
    ∃ request, e.request e.blueprint.delete (some identifier) = .ok request

/-- For an object that is removable, a compensation is one removal. -/
theorem Compensates.of_isRemovable {removal : List Event}
    (compensates : e.Compensates resource identifier removal)
    (removable : e.IsRemovable resource identifier) :
    ∃ event, removal = [event] ∧ e.IsRemoval resource identifier event := by
  -- The policy and the request rule out all ways but the removal.
  cases compensates with
  | left policy => cases policy.symm.trans removable.policy
  | unformed _ unpaid unformed =>
    obtain ⟨request, formed⟩ := removable.formed unpaid
    cases unformed.symm.trans formed
  | removed _ isRemoval => exact ⟨_, rfl, isRemoval⟩

/-- For any other object, a compensation does nothing. -/
theorem Compensates.eq_nil {removal : List Event}
    (compensates : e.Compensates resource identifier removal)
    (kept : ¬e.IsRemovable resource identifier) : removal = [] := by
  -- A removal shows that there was a request for it, or that the object is prepaid.
  cases compensates with
  | left | unformed => rfl
  | removed policy isRemoval =>
    refine absurd ⟨policy, fun unpaid => ?_⟩ kept
    cases isRemoval with
    | deleted _ formed => exact ⟨_, formed⟩
    | unsubscribed prepaid => cases unpaid.symm.trans prepaid

/-- A creation condemns the object that it made: the object is removable, and the poll for it ended
with a failure. -/
structure Condemns (e : Engine σ) (resource : Resource) (deadline : Nat) (env : σ) (now : Nat)
    (identifier : String) (failure : Failure) : Prop where
  made : (e.make resource deadline env now).answer = .ok identifier
  unready : (e.pollIfAny e.blueprint.createPoll identifier deadline
    (e.make resource deadline env now).env
    (now + (e.make resource deadline env now).elapsed)).answer = .error failure
  removable : e.IsRemovable resource identifier

section

variable {env : σ} {now : Nat} {failure : Failure}

/-- A creation whose object gets ready makes progress only, whatever happens to its tags and its
read. -/
theorem createUntil_of_ready (made : (e.make resource deadline env now).answer = .ok identifier)
    (ready : (e.pollIfAny e.blueprint.createPoll identifier deadline
      (e.make resource deadline env now).env
      (now + (e.make resource deadline env now).elapsed)).answer = .ok ()) :
    ∀ event ∈ (e.createUntil resource deadline env now).events, e.IsProgress resource event := by
  -- What comes after the poll only adds tags and reads.
  obtain ⟨passed, events⟩ := awaitReady_of_ready resource ready
  have watched := (e.pollIfAny_watched e.blueprint.createPoll identifier deadline
    (e.make resource deadline env now).env
    (now + (e.make resource deadline env now).elapsed)).watches
  have ends : (e.tagNew resource identifier >>= fun _ => e.find resource identifier).Does
      (e.IsProgress resource) :=
    Run.Does.bind (fun env now => GetsTags.isProgress (e.tagNew_obeys _ identifier env now))
      fun _ env now => Finds.isProgress (e.find_obeys _ identifier env now)
  rw [createUntil, Run.bind_of_ok made, Outcome.delayed_events, Run.bind_of_ok passed,
    Outcome.delayed_events, events]
  intro event member
  -- An event is part of making the object, of the poll, or of what comes after.
  rcases List.mem_append.mp member with early | member
  · exact Makes.isProgress (e.make_obeys resource deadline env now) event early
  · rcases List.mem_append.mp member with looked | late
    · exact .watched (watched event looked)
    · exact ends _ _ event late

/-- A creation whose object does not get ready ends with the poll's failure, and its last act is the
compensation. -/
theorem createUntil_of_unready (made : (e.make resource deadline env now).answer = .ok identifier)
    (unready : (e.pollIfAny e.blueprint.createPoll identifier deadline
      (e.make resource deadline env now).env
      (now + (e.make resource deadline env now).elapsed)).answer = .error failure) :
    (e.createUntil resource deadline env now).answer = .error failure ∧
      ∃ before removal, (e.createUntil resource deadline env now).events = before ++ removal ∧
        (∀ event ∈ before, e.IsProgress resource event) ∧
        e.Compensates resource identifier removal := by
  -- The compensation ends the creation, so all else comes before it.
  obtain ⟨failed, removal, compensates, events⟩ :=
    awaitReady_of_unready (fun prepaid => billing_of_make prepaid made) unready
  have watched := (e.pollIfAny_watched e.blueprint.createPoll identifier deadline
    (e.make resource deadline env now).env
    (now + (e.make resource deadline env now).elapsed)).watches
  rw [createUntil, Run.bind_of_ok made, Outcome.delayed_answer, Outcome.delayed_events,
    Run.bind_of_error failed]
  refine ⟨rfl, _, removal, (congrArg _ events).trans (List.append_assoc ..).symm, ?_, compensates⟩
  intro event member
  rcases List.mem_append.mp member with early | looked
  · exact Makes.isProgress (e.make_obeys resource deadline env now) event early
  · exact .watched (watched event looked)

/-- A creation that condemns its object ends with the poll's failure, and its last act is the one
removal. -/
theorem Condemns.createUntil
    (condemns : e.Condemns resource deadline env now identifier failure) :
    (e.createUntil resource deadline env now).answer = .error failure ∧
      ∃ before event, (e.createUntil resource deadline env now).events = before ++ [event] ∧
        e.IsRemoval resource identifier event ∧
        ∀ earlier ∈ before, e.IsProgress resource earlier := by
  -- The object was made, did not get ready, and can be removed.
  obtain ⟨failed, before, removal, events, progress, compensates⟩ :=
    createUntil_of_unready condemns.made condemns.unready
  obtain ⟨event, rfl, isRemoval⟩ := compensates.of_isRemovable condemns.removable
  exact ⟨failed, before, event, events, isRemoval, progress⟩

/-- A creation that condemns nothing makes progress only. -/
theorem createUntil_isProgress
    (spares : ∀ identifier failure, ¬e.Condemns resource deadline env now identifier failure) :
    ∀ event ∈ (e.createUntil resource deadline env now).events, e.IsProgress resource event := by
  -- The object may not be made, may get ready, or has to be kept.
  cases made : (e.make resource deadline env now).answer with
  | error failure =>
    rw [Engine.createUntil, Run.bind_of_error made]
    exact Makes.isProgress (e.make_obeys resource deadline env now)
  | ok identifier =>
    cases polled : (e.pollIfAny e.blueprint.createPoll identifier deadline
      (e.make resource deadline env now).env
      (now + (e.make resource deadline env now).elapsed)).answer with
    | ok => exact createUntil_of_ready made polled
    | error failure =>
      -- A failed poll would condemn an object that can be removed.
      have kept : ¬e.IsRemovable resource identifier :=
        fun removable => spares identifier failure ⟨made, polled, removable⟩
      obtain ⟨-, before, removal, events, progress, compensates⟩ :=
        createUntil_of_unready made polled
      rw [events, compensates.eq_nil kept, List.append_nil]
      exact progress

end

/-- The requests that remove objects differ by their method from all others in a creation. -/
structure RemovesApart (b : Blueprint) : Prop where
  create : b.create.method ≠ b.delete.method
  read : b.read.method ≠ b.delete.method
  tags : b.tagging.isSome = true → Method.post ≠ b.delete.method
  lookup : ∀ terms, b.billing = some terms → ∀ lookup, terms.lookup = some lookup →
    lookup.endpoint.method ≠ b.delete.method

/-- The kinds of the catalogue keep their removals apart. -/
theorem removesApart_of_mem {kind : Kind} (listed : kind ∈ Catalogue.kinds) :
    RemovesApart kind.blueprint := by
  -- All of them remove by the method that is named for it, and use it for nothing else.
  simp only [Catalogue.kinds, List.mem_cons, List.not_mem_nil, or_false] at listed
  rcases listed with rfl | rfl | rfl | rfl | rfl | rfl
  all_goals exact
    { create := by decide, read := by decide, tags := fun _ => by decide
      lookup := fun terms priced lookup listed => by cases priced <;> cases listed }

/-- The request of a creation has the method of its endpoint, whatever its body. -/
theorem method_of_createRequest {request : Request}
    (formed : e.createRequest resource = .ok request) :
    request.method = e.blueprint.create.method := by
  -- The body is added to a request that has its method already.
  obtain ⟨_, -, formed⟩ := exists_of_bind_eq_ok formed
  obtain ⟨plain, made, formed⟩ := exists_of_bind_eq_ok formed
  obtain ⟨body, -, same⟩ := exists_of_bind_eq_ok formed
  cases same
  exact (method_withBody plain body).trans (method_of_request made)

/-- The request of a tag action is always a post. -/
theorem method_of_tagRequest {tagging : Tagging} {action : String} {tags : List Document}
    {request : Request} (formed : e.tagRequest tagging identifier action tags = .ok request) :
    request.method = .post := by
  -- Only the body is added to the post.
  obtain ⟨plain, made, same⟩ := exists_of_bind_eq_ok formed
  cases same
  exact method_of_request made

/-- An order is looked up by a request to the endpoint of that. -/
theorem request_of_lookupRequest {terms : BillingTerms} {created : Option String}
    {request : Request} {path : String}
    (formed : e.lookupRequest terms created = .ok (some (request, path))) :
    ∃ lookup, terms.lookup = some lookup ∧ e.request lookup.endpoint created = .ok request := by
  -- Without an endpoint for lookups there is no such request.
  unfold lookupRequest at formed
  split at formed
  · rename_i lookup listed
    obtain ⟨plain, made, same⟩ := exists_of_bind_eq_ok formed
    cases same
    exact ⟨lookup, listed, made⟩
  · cases formed

/-- No progress is a removal where these can be told apart. -/
theorem IsProgress.not_isRemoval {event : Event} (progress : e.IsProgress resource event)
    (apart : RemovesApart e.blueprint) (identifier : String) :
    ¬e.IsRemoval resource identifier event := by
  intro isRemoval
  cases isRemoval with
  | unsubscribed =>
    -- The other billing calls are not ends of subscriptions, and the rest are no billing calls.
    cases progress with
    | sought _ looks => rcases looks with ⟨_, _, _, _, _, _, same⟩ | ⟨_, _, same⟩ <;> cases same
    | watched watches => exact IsWatch.not_billing watches
  | deleted _ removes =>
    -- A request that removes has the method that nothing else in a creation has.
    have method := method_of_request removes
    cases progress with
    | made formed => exact apart.create ((method_of_createRequest formed).symm.trans method)
    | sought priced looks =>
      rcases looks with ⟨_, _, _, _, _, formed, same⟩ | ⟨_, _, same⟩
      · cases same
        obtain ⟨lookup, listed, looked⟩ := request_of_lookupRequest formed
        exact apart.lookup _ priced lookup listed ((method_of_request looked).symm.trans method)
      · cases same
    | watched watches =>
      rcases watches with ⟨_, _, _, _, formed, same⟩ | ⟨_, _, same⟩
      · cases same
        exact apart.read ((method_of_request formed).symm.trans method)
      · cases same
    | tagged tagged formed =>
      exact apart.tags (by rw [tagged]; rfl) ((method_of_tagRequest formed).symm.trans method)

end Provision.Engine
