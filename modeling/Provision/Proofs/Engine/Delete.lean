import Provision.Catalogue.Volume
import Provision.Engine.Delete
import Provision.Proofs.Engine.Look
import Provision.Script

/-! Deleting what is prepaid takes its subscription back, and not every success is borne out. -/

namespace Provision.Engine

variable {σ : Type} {e : Engine σ} {identifier : String}

/-- What is done about a subscription and how that fails, if it cannot be taken back. -/
inductive Refuses (e : Engine σ) (identifier : String) : Failure → List Event → Prop where
  | unbilled : e.billing = none →
      Refuses e identifier (.invalidConfiguration "prepaid resources need a billing client") []
  | failed {start : Nat} {failure : Failure} {inner : List Event} : e.billing.isSome = true →
      Refuses e identifier failure
        [.billing start (.unsubscribe [identifier]) (some failure) inner]

/-- How a failed removal of what is prepaid is settled: at once if the kind's rule takes the
failure for absence, and else by a second look, of which only absence is a success. -/
inductive Settles (e : Engine σ) (identifier : String) :
    Failure → Except Failure Unit → List Event → Prop where
  | covered {failure : Failure} : e.blueprint.notFound.covers failure = true →
      Settles e identifier failure (.ok ()) []
  | absent {failure : Failure} {again : List Event} :
      e.blueprint.notFound.covers failure = false → e.Reads identifier (.ok none) again →
      Settles e identifier failure (.ok ()) again
  | alive {failure : Failure} {document : Document} {again : List Event} :
      e.blueprint.notFound.covers failure = false →
      e.Reads identifier (.ok (some document)) again →
      Settles e identifier failure (.error failure) again
  | unread {failure other : Failure} {again : List Event} :
      e.blueprint.notFound.covers failure = false → e.Reads identifier (.error other) again →
      Settles e identifier failure (.error other) again

/-- How the deletion of a prepaid object goes: what it answers, and what it does. -/
inductive Withdraws (e : Engine σ) (identifier : String) :
    Except Failure Unit → List Event → Prop where
  | unread {failure : Failure} {looked : List Event} :
      e.Reads identifier (.error failure) looked →
      Withdraws e identifier (.error failure) looked
  | absent {looked : List Event} : e.Reads identifier (.ok none) looked →
      Withdraws e identifier (.ok ()) looked
  /-- The subscription is taken back, and the poll that follows decides. -/
  | released {document : Document} {looked inner watched : List Event} {start : Nat}
      {answer : Except Failure Unit} : e.billing.isSome = true →
      e.Reads identifier (.ok (some document)) looked →
      e.Watched e.blueprint.deletePoll identifier answer watched →
      Withdraws e identifier answer
        (looked ++ (.billing start (.unsubscribe [identifier]) none inner :: watched))
  | refused {document : Document} {looked refused settled : List Event} {failure : Failure}
      {answer : Except Failure Unit} : e.Reads identifier (.ok (some document)) looked →
      e.Refuses identifier failure refused → e.Settles identifier failure answer settled →
      Withdraws e identifier answer (looked ++ (refused ++ settled))

/-- A failed removal of what is prepaid is settled by the failure or by a second look. -/
theorem settle_settles (e : Engine σ) (identifier : String) (failure : Failure) (env : σ)
    (now : Nat) :
    e.Settles identifier failure (e.settle identifier true failure env now).answer
      (e.settle identifier true failure env now).events := by
  -- The rule comes first, and what is prepaid is looked at again if it does not apply.
  rw [settle]
  split
  · rename_i covered
    exact .covered covered
  · -- What is prepaid is read once more, and the three answers are the other ways.
    rename_i other
    rw [if_pos rfl]
    have other : e.blueprint.notFound.covers failure = false := by simpa using other
    have reads := e.fetch_reads identifier env now
    cases answered : (e.fetch identifier env now).answer with
    | error unread =>
      rw [Run.bind_of_error answered]
      exact .unread other (answered ▸ reads)
    | ok found =>
      rw [Run.bind_of_ok answered]
      cases found with
      | none =>
        simp only [Run.pure_apply, Outcome.delayed_answer, Outcome.delayed_events, List.append_nil]
        exact .absent other (answered ▸ reads)
      | some document =>
        simp only [Run.fail_apply, Outcome.delayed_answer, Outcome.delayed_events, List.append_nil]
        exact .alive other (answered ▸ reads)

/-- A subscription is taken back by one billing call, if there is a billing side. -/
theorem remove_prepaid (e : Engine σ) (identifier : String) (env : σ) (now : Nat) :
    (∃ failure, (e.remove identifier true env now).answer = .error failure ∧
      e.Refuses identifier failure (e.remove identifier true env now).events) ∨
    ((e.remove identifier true env now).answer = .ok () ∧ e.billing.isSome = true ∧
      ∃ inner, (e.remove identifier true env now).events =
        [.billing now (.unsubscribe [identifier]) none inner]) := by
  -- The call is recorded with its failure, and fails or succeeds with it.
  rw [remove, if_pos rfl]
  cases billing : e.billing with
  | none => exact .inl ⟨_, rfl, .unbilled billing⟩
  | some client =>
    cases answered : (client.unsubscribe [identifier] env now).answer with
    | error failure =>
      refine .inl ⟨failure, answered, ?_⟩
      simp only [BillingClient.release, Run.billed, answered]
      exact .failed (by rw [billing]; rfl)
    | ok =>
      refine .inr ⟨answered, rfl, (client.unsubscribe [identifier] env now).events, ?_⟩
      simp only [BillingClient.release, Run.billed, answered]

/-- The deletion of a prepaid object goes one of the ways there are. -/
theorem delete_withdraws {current : State} (prepaid : e.isPrepaid current.attributes = true)
    (env : σ) (now : Nat) :
    e.Withdraws identifier (e.delete identifier current env now).answer
      (e.delete identifier current env now).events := by
  -- The first look decides whether there is anything to do, the removal how it is settled.
  rw [delete, Run.now_bind, if_pos prepaid]
  have reads := e.fetch_reads identifier env now
  cases answered : (e.fetch identifier env now).answer with
  | error failure =>
    rw [Run.bind_of_error answered]
    exact .unread (answered ▸ reads)
  | ok found =>
    rw [Run.bind_of_ok answered]
    cases found with
    | none =>
      simp only [Run.pure_apply, Outcome.delayed_answer, Outcome.delayed_events, List.append_nil]
      exact .absent (answered ▸ reads)
    | some document =>
      simp only [removeAndWait, Outcome.delayed_answer, Outcome.delayed_events]
      rw [Run.attempt_bind, Outcome.delayed_answer, Outcome.delayed_events]
      -- The object is there, so the subscription is taken back or that is refused.
      rcases e.remove_prepaid identifier (e.fetch identifier env now).env
          (now + (e.fetch identifier env now).elapsed) with
        ⟨failure, failed, refuses⟩ | ⟨released, client, inner, events⟩
      · rw [failed]
        exact .refused (answered ▸ reads) refuses (e.settle_settles identifier failure _ _)
      · rw [released, events]
        exact .released client (answered ▸ reads) (e.pollIfAny_watched _ identifier _ _ _)

/-- What a deletion has to have seen or done for an object to be gone or no longer paid for. -/
inductive BorneOut (e : Engine σ) (identifier : String) (events : List Event) : Prop where
  /-- A read of the object showed that it is not there. -/
  | absent {event : Event} {answer : Except Failure Response} : event ∈ events →
      e.IsRead identifier answer event → e.ShowsAbsent identifier answer →
      BorneOut e identifier events
  /-- The subscription was taken back, and the poll behind that, if any, reached its target. -/
  | released {start : Nat} {before inner after : List Event} :
      events = before ++ .billing start (.unsubscribe [identifier]) none inner :: after →
      (∀ spec ∈ e.blueprint.deletePoll, ∃ answer event, after.getLast? = some event ∧
        e.IsRead identifier answer event ∧ e.ShowsTarget spec identifier answer) →
      BorneOut e identifier events

/-- A read that finds nothing bears out that the object is gone. -/
theorem Reads.borneOut {looked events : List Event} (reads : e.Reads identifier (.ok none) looked)
    (part : looked ⊆ events) : e.BorneOut identifier events := by
  -- The read itself is the event.
  obtain ⟨answer, event, read, judged, rfl⟩ := reads.of_ok
  exact .absent (part (List.mem_singleton_self event)) read (judge_eq_none_iff.mp judged)

/-- Watching an object is no billing call. -/
theorem IsWatch.not_isBilling {event : Event} (watch : e.IsWatch identifier event) :
    ¬event.IsBilling := by
  -- It is a request or a pause.
  rcases watch with ⟨_, _, _, _, _, rfl⟩ | ⟨_, _, rfl⟩ <;> exact id

/-- A billing call does not watch an object. -/
theorem IsWatch.not_billing {start : Nat} {call : BillingCall} {failure : Option Failure}
    {inner : List Event} : ¬e.IsWatch identifier (.billing start call failure inner) :=
  fun watch => watch.not_isBilling trivial

/-- The only billing call of a refusal is the one that failed. -/
theorem Refuses.eq_of_mem {failure other : Failure} {refused inner : List Event} {start : Nat}
    {call : BillingCall} (refuses : e.Refuses identifier failure refused)
    (member : .billing start call (some other) inner ∈ refused) : other = failure := by
  -- Without a billing side there is no call at all.
  cases refuses with
  | unbilled => cases member
  | failed =>
    cases List.mem_singleton.mp member
    rfl

/-- No event of a read that finds the object shows that it is not there. -/
theorem Reads.not_absent {document : Document} {looked : List Event} {event : Event}
    {answer : Except Failure Response} (reads : e.Reads identifier (.ok (some document)) looked)
    (member : event ∈ looked) (read : e.IsRead identifier answer event) :
    ¬e.ShowsAbsent identifier answer := by
  -- The one event is the read that found the object.
  obtain ⟨shown, only, ⟨_, _, _, _, rfl⟩, judged, rfl⟩ := reads.of_ok
  obtain ⟨_, _, _, _, rfl⟩ := read
  cases List.mem_singleton.mp member
  rw [← judge_eq_none_iff, judged]
  simp

/-- A read that finds the object and an unsubscription that fails bear nothing out. -/
theorem not_borneOut_of_refused {document : Document} {looked inner : List Event} {start : Nat}
    {failure : Failure} (reads : e.Reads identifier (.ok (some document)) looked) :
    ¬e.BorneOut identifier
      (looked ++ [.billing start (.unsubscribe [identifier]) (some failure) inner]) := by
  -- The only read found the object, and the only billing call failed.
  intro borne
  cases borne with
  | absent member read absent =>
    rcases List.mem_append.mp member with looked | paid
    · exact reads.not_absent looked read absent
    · cases List.mem_singleton.mp paid
      obtain ⟨_, _, _, _, same⟩ := read
      cases same
  | released joined =>
    have member := joined.symm ▸ List.mem_append_cons_self
    rcases List.mem_append.mp member with looked | paid
    · exact IsWatch.not_billing (reads.isWatch _ looked)
    · cases List.mem_singleton.mp paid

/-- A failure that the kind's rule takes for absence settles a removal at once. -/
theorem Settles.of_covered {failure : Failure} {answer : Except Failure Unit}
    {again : List Event} (settles : e.Settles identifier failure answer again)
    (covered : e.blueprint.notFound.covers failure = true) : answer = .ok () ∧ again = [] := by
  -- The other ways are only gone if the rule does not apply.
  cases settles with
  | covered => exact ⟨rfl, rfl⟩
  | absent other | alive other | unread other =>
    rw [covered] at other
    cases other

/-- Any other failure is settled by watching the object, and a success by its absence. -/
theorem Settles.of_not_covered {failure : Failure} {answer : Except Failure Unit}
    {again : List Event} (settles : e.Settles identifier failure answer again)
    (other : e.blueprint.notFound.covers failure ≠ true) :
    (∀ event ∈ again, e.IsWatch identifier event) ∧
      (answer = .ok () → e.Reads identifier (.ok none) again) := by
  -- Each of the other ways is a second look.
  cases settles with
  | covered covered => exact absurd covered other
  | absent _ reads => exact ⟨reads.isWatch, fun _ => reads⟩
  | alive _ reads => exact ⟨reads.isWatch, fun answered => nomatch answered⟩
  | unread _ reads => exact ⟨reads.isWatch, fun answered => nomatch answered⟩

/-- A prepaid deletion that goes well without being borne out met a failure that its kind's
rule takes for absence. -/
theorem Withdraws.unfounded_iff {answer : Except Failure Unit} {events : List Event}
    (withdraws : e.Withdraws identifier answer events) :
    (answer = .ok () ∧ ¬e.BorneOut identifier events) ↔
      ∃ start failure inner,
        .billing start (.unsubscribe [identifier]) (some failure) inner ∈ events ∧
          e.blueprint.notFound.covers failure = true := by
  -- Of the ways to go, only a refusal that the rule covers makes a failed billing call a success.
  cases withdraws with
  | unread reads =>
    refine iff_of_false (fun unfounded => nomatch unfounded.1) ?_
    rintro ⟨_, _, _, member, -⟩
    exact IsWatch.not_billing (reads.isWatch _ member)
  | absent reads =>
    refine iff_of_false (fun unfounded => unfounded.2 (reads.borneOut fun _ member => member)) ?_
    rintro ⟨_, _, _, member, -⟩
    exact IsWatch.not_billing (reads.isWatch _ member)
  | released _ reads watched =>
    refine iff_of_false (fun unfounded => ?_) ?_
    · exact unfounded.2 (.released rfl (watched.reached unfounded.1))
    · rintro ⟨_, _, _, member, -⟩
      rcases List.mem_append.mp member with looked | paid
      · exact IsWatch.not_billing (reads.isWatch _ looked)
      · rcases List.mem_cons.mp paid with same | later
        · cases same
        · exact IsWatch.not_billing (watched.watches _ later)
  | @refused _ looked refused settled failure answer reads refuses settles =>
    by_cases covered : e.blueprint.notFound.covers failure = true
    · obtain ⟨rfl, rfl⟩ := settles.of_covered covered
      cases refuses with
      -- That there is no billing side is no answer of a service, and no rule covers it.
      | unbilled => cases covered
      | failed =>
        rw [List.append_nil]
        exact iff_of_true ⟨rfl, not_borneOut_of_refused reads⟩
          ⟨_, failure, _, List.mem_append_right _ (List.mem_singleton_self _), covered⟩
    · -- A success then comes from a second look, and the one failure is not covered.
      obtain ⟨watches, absent⟩ := settles.of_not_covered covered
      refine iff_of_false (fun unfounded => unfounded.2 ((absent unfounded.1).borneOut ?_)) ?_
      · simp
      · rintro ⟨_, other, _, member, ruled⟩
        rcases List.mem_append.mp member with looked | rest
        · exact IsWatch.not_billing (reads.isWatch _ looked)
        · rcases List.mem_append.mp rest with paid | settled
          · exact covered (refuses.eq_of_mem paid ▸ ruled)
          · exact IsWatch.not_billing (watches _ settled)

/-- An object that was found is deleted without being borne out when its subscription is not
taken back for a reason that its kind's rule takes for absence. -/
theorem delete_of_covered {current : State} (prepaid : e.isPrepaid current.attributes = true)
    {client : BillingClient σ} (billed : e.billing = some client) {env : σ} {now : Nat}
    {document : Document} (found : (e.fetch identifier env now).answer = .ok (some document))
    {failure : Failure} (failed : ∀ env now,
      (client.unsubscribe [identifier] env now).answer = .error failure)
    (covered : e.blueprint.notFound.covers failure = true) :
    let o := e.delete identifier current env now
    o.answer = .ok () ∧ ¬e.BorneOut identifier o.events := by
  -- One read and one failed billing call are all that happens.
  have reads := found ▸ e.fetch_reads identifier env now
  have refused (env : σ) (now : Nat) :
      (e.remove identifier true env now).answer = .error failure ∧
        (e.remove identifier true env now).events =
          [.billing now (.unsubscribe [identifier]) (some failure)
            (client.unsubscribe [identifier] env now).events] := by
    rw [remove, if_pos rfl, billed]
    simp only [BillingClient.release, Run.billed, failed, and_self]
  rw [delete, Run.now_bind, if_pos prepaid, Run.bind_of_ok found]
  simp only [removeAndWait]
  rw [Run.attempt_bind, (refused _ _).1, (refused _ _).2]
  simp only [settle, if_pos covered, Run.pure_apply, Outcome.delayed_answer,
    Outcome.delayed_events, List.append_nil]
  exact ⟨trivial, not_borneOut_of_refused reads⟩

/-- Volumes of which the remote side shows each as available, while the billing side knows none of
their subscriptions. -/
def unknownVolumes : Engine Unit where
  kind := Catalogue.Volume.kind
  remote := ⟨fun _ env =>
    ⟨.ok ⟨200, .object [("volume", .object [("status", .string "available")])]⟩, 0, env⟩⟩
  billing := some (CannedBilling.client
    { unsubscribe := { failure := some (.unexpectedStatus 404 "") } })
  params := Dict.empty.insert "project_id" "p1"

/-- A volume that was prepaid when it was read last. -/
def subscribedVolume : State :=
  .found ⟨"hcs_evs_volume", "data"⟩ "v-1" (Dict.empty.insert "charging_mode" (.string prepaid))

/-- A read finds that volume. -/
theorem subscribedVolume_found :
    ∃ document, (unknownVolumes.fetch "v-1" () 0).answer = .ok (some document) := by
  -- What the read shows can be computed, and it is a document.
  have shown : (unknownVolumes.fetch "v-1" () 0).answer.toOption.any Option.isSome = true := by
    decide +kernel
  obtain ⟨found, answered, there⟩ := exists_ok_of_any shown
  obtain ⟨document, rfl⟩ := Option.isSome_iff_exists.mp there
  exact ⟨document, answered⟩

/-- Its deletion succeeds all the same, and is not borne out. -/
theorem delete_subscribedVolume :
    let o := unknownVolumes.delete "v-1" subscribedVolume () 0
    o.answer = .ok () ∧ ¬unknownVolumes.BorneOut "v-1" o.events := by
  obtain ⟨document, found⟩ := subscribedVolume_found
  -- The rule of volumes takes the answer of the billing side for the absence of the volume.
  exact delete_of_covered (by decide) rfl found (fun _ _ => rfl) (by decide)

/--
A deletion of what is prepaid succeeds without being borne out exactly when the subscription is
not taken back for a reason that the kind's rule takes for absence.

Any other success is borne out by a read without the object, or by the subscription taken back.
-/
theorem delete_unfounded_iff {current : State} (prepaid : e.isPrepaid current.attributes = true)
    (identifier : String) (env : σ) (now : Nat) :
    let o := e.delete identifier current env now
    (o.answer = .ok () ∧ ¬e.BorneOut identifier o.events) ↔
      ∃ start failure inner,
        .billing start (.unsubscribe [identifier]) (some failure) inner ∈ o.events ∧
          e.blueprint.notFound.covers failure = true :=
  (delete_withdraws prepaid env now).unfounded_iff

/-- A prepaid volume that is there is deleted without being borne out, for the billing side was
asked to end its subscription and does not know it. -/
theorem delete_unfounded_iff_volume :
    let o := unknownVolumes.delete "v-1" subscribedVolume () 0
    unknownVolumes.isPrepaid subscribedVolume.attributes = true ∧
      (o.answer = .ok () ∧ ¬unknownVolumes.BorneOut "v-1" o.events) ∧
      ∃ start failure inner,
        .billing start (.unsubscribe ["v-1"]) (some failure) inner ∈ o.events ∧
          unknownVolumes.blueprint.notFound.covers failure = true := by
  -- The success is computed, and that the billing side was asked follows from it.
  have paid : unknownVolumes.isPrepaid subscribedVolume.attributes = true := by decide
  have unfounded := delete_subscribedVolume
  exact ⟨paid, unfounded, (delete_unfounded_iff paid "v-1" () 0).mp unfounded⟩

/-- So not every success is borne out: the billing side says of a subscription that it does not
know what the remote side would say of a volume that is gone. -/
theorem delete_unfounded_of_unknown_subscription :
    (∃ document, (unknownVolumes.fetch "v-1" () 0).answer = .ok (some document)) ∧
      let o := unknownVolumes.delete "v-1" subscribedVolume () 0
      o.answer = .ok () ∧ ¬unknownVolumes.BorneOut "v-1" o.events :=
  ⟨subscribedVolume_found, delete_subscribedVolume⟩

/-- How an object is deleted by way of its subscription: it is looked at, the subscription is
taken back if the object is there, and the rest is watching. -/
inductive TakesBack (e : Engine σ) (identifier : String) :
    Except Failure Unit → List Event → Prop where
  | unread {failure : Failure} {looked : List Event} :
      e.Reads identifier (.error failure) looked → TakesBack e identifier (.error failure) looked
  | absent {looked : List Event} :
      e.Reads identifier (.ok none) looked → TakesBack e identifier (.ok ()) looked
  | unsubscribed {document : Document} {looked inner watched : List Event} {start : Nat}
      {failure : Option Failure} {answer : Except Failure Unit} :
      e.Reads identifier (.ok (some document)) looked →
      (∀ event ∈ watched, e.IsWatch identifier event) →
      TakesBack e identifier answer
        (looked ++ .billing start (.unsubscribe [identifier]) failure inner :: watched)

/-- With a billing side, the deletion of a prepaid object takes back its subscription. -/
theorem Withdraws.takesBack {answer : Except Failure Unit} {events : List Event}
    (withdraws : e.Withdraws identifier answer events) (billed : e.billing.isSome = true) :
    e.TakesBack identifier answer events := by
  -- Only without a billing side could the subscription not have been asked to end.
  cases withdraws with
  | unread reads => exact .unread reads
  | absent reads => exact .absent reads
  | released _ reads watched => exact .unsubscribed reads watched.watches
  | @refused _ _ _ _ failure _ reads refuses settles =>
    cases refuses with
    | unbilled missing =>
      rw [missing] at billed
      cases billed
    | failed =>
      by_cases covered : e.blueprint.notFound.covers failure = true
      · obtain ⟨rfl, rfl⟩ := settles.of_covered covered
        exact .unsubscribed reads fun event member => nomatch member
      · exact .unsubscribed reads (settles.of_not_covered covered).1

/-- How an object is deleted by the request of its kind: the request goes first, if there is
a way to form it, and the rest is watching. -/
inductive Removes (e : Engine σ) (identifier : String) :
    Except Failure Unit → List Event → Prop where
  | unsent {failure : Failure} :
      e.request e.blueprint.delete (some identifier) = .error failure →
      Removes e identifier (.error failure) []
  | sent {start finish : Nat} {request : Request} {reply : Except Failure Response}
      {answer : Except Failure Unit} {watched : List Event} :
      e.request e.blueprint.delete (some identifier) = .ok request →
      (∀ event ∈ watched, e.IsWatch identifier event) →
      Removes e identifier answer (.call start finish request reply :: watched)

/-- A request that cannot be formed is no sign of absence. -/
theorem not_covered_of_request {endpoint : Endpoint} {target : Option String} {failure : Failure}
    (unformed : e.request endpoint target = .error failure) :
    e.blueprint.notFound.covers failure = false := by
  -- The rules are about the answers of services, and this is none.
  obtain ⟨template, placeholder, rfl⟩ := request_eq_error unformed
  rfl

/-- What is not prepaid is deleted by the request of its kind. -/
theorem delete_removes {current : State} (unpaid : e.isPrepaid current.attributes = false)
    (identifier : String) (env : σ) (now : Nat) :
    e.Removes identifier (e.delete identifier current env now).answer
      (e.delete identifier current env now).events := by
  -- There is no look before the request, and a failure of it is not looked into.
  rw [delete, Run.now_bind, if_neg (by simp [unpaid]), removeAndWait, Run.attempt_bind, remove,
    if_neg Bool.false_ne_true]
  cases formed : e.request e.blueprint.delete (some identifier) with
  | error failure =>
    rw [Run.monadLift_error_bind]
    simp only [Run.fail_apply, Outcome.delayed_zero, settle, not_covered_of_request formed]
    exact .unsent formed
  | ok request =>
    rw [Run.monadLift_ok_bind]
    cases answered : (e.remote.send request env now).answer with
    | error failure =>
      rw [Run.bind_of_error answered]
      simp only [settle, Outcome.delayed_events, Outcome.delayed_answer]
      -- A failure is settled without another event, whether it is covered or not.
      refine .sent formed fun event member => ?_
      split at member
      · cases member
      · cases member
    | ok response =>
      rw [Run.bind_of_ok answered]
      exact .sent formed (e.pollIfAny_watched e.blueprint.deletePoll identifier _ _ _).watches

/-- A request has the method of its endpoint. -/
theorem method_of_request {endpoint : Endpoint} {target : Option String} {request : Request}
    (formed : e.request endpoint target = .ok request) : request.method = endpoint.method := by
  -- The method is taken over as it is.
  unfold Engine.request at formed
  simp only [Bind.bind, Except.bind] at formed
  split at formed
  · cases formed
  · cases formed
    rfl

/-- A body leaves the method of a request as it is. -/
theorem method_withBody (request : Request) (body : Option Document) :
    (withBody request body).method = request.method := by
  cases body <;> rfl

/-- A deletion by the request of the kind sends it, and makes no billing call. -/
theorem Removes.sends {answer : Except Failure Unit} {events : List Event}
    (removes : e.Removes identifier answer events)
    (formed : (e.request e.blueprint.delete (some identifier)).toOption.isSome = true) :
    (∃ start finish request reply, request.method = e.blueprint.delete.method ∧
        .call start finish request reply ∈ events) ∧
      ∀ start call failure inner, .billing start call failure inner ∉ events := by
  -- The request can be formed, so it is sent, and the rest is reads and pauses.
  cases removes with
  | unsent unformed =>
    rw [unformed] at formed
    cases formed
  | sent formed watches =>
    refine ⟨⟨_, _, _, _, method_of_request formed, List.mem_cons_self⟩, ?_⟩
    intro start call failure inner member
    rcases List.mem_cons.mp member with same | watched
    · cases same
    · exact IsWatch.not_billing (watches _ watched)

end Provision.Engine
