import Mathlib.Data.List.Pairwise
import Provision.Proofs.Engine.Delete

/-! Deleting an object that is not there succeeds, and no deletion removes an object twice. -/

namespace Provision.Engine

variable {σ : Type} {e : Engine σ} {identifier : String}

/-- A read that can be formed is sent once, and its answer alone says what it finds. -/
theorem fetch_of_request {request : Request}
    (formed : e.request e.blueprint.read (some identifier) = .ok request) (env : σ) (now : Nat) :
    let reply := e.remote.reply request env
    e.fetch identifier env now = ⟨e.judge identifier reply.answer, reply.env, reply.delay,
      [.call now (now + reply.delay) request reply.answer]⟩ := by
  -- All that is left of the fetch is one request and the judgement of its answer.
  rw [fetch_eq, formed, Run.monadLift_ok_bind, Run.attempt_bind, Run.monadLift_apply]
  rfl

/-- The object can be read, and every read of it among events shows that it is not there. -/
structure SeesNothing (e : Engine σ) (identifier : String) (events : List Event) : Prop where
  readable : ∃ request, e.request e.blueprint.read (some identifier) = .ok request
  absent : ∀ event ∈ events, ∀ answer, e.IsRead identifier answer event →
    e.ShowsAbsent identifier answer

/-- A fetch among such events finds no object. -/
theorem SeesNothing.fetch {events : List Event} (sees : e.SeesNothing identifier events) {env : σ}
    {now : Nat} (part : (e.fetch identifier env now).events ⊆ events) :
    (e.fetch identifier env now).answer = .ok none := by
  -- The request of the fetch is among the events, so its answer shows absence.
  obtain ⟨request, formed⟩ := sees.readable
  rw [fetch_of_request formed] at part ⊢
  have member := part (List.mem_singleton_self _)
  exact judge_eq_none_iff.mpr (sees.absent _ member _ ⟨_, _, request, formed, rfl⟩)

/-- A look is a fetch, and sees nothing where that finds nothing. -/
theorem look_of_absent {env : σ} {now : Nat}
    (absent : (e.fetch identifier env now).answer = .ok none) :
    (e.look identifier env now).answer = .ok .notFound := by
  -- The look only translates what was fetched.
  rw [look, Run.bind_of_ok absent]
  rfl

/-- The poll behind a step does what its looks do, and pauses. -/
theorem pollIfAny_events (e : Engine σ) (spec : PollSpec) (identifier : String) (deadline : Nat)
    (env : σ) (now : Nat) :
    (e.pollIfAny (some spec) identifier deadline env now).events =
      (spec.run (e.look identifier) (some deadline) env now).events := by
  -- What becomes of the report is a computation.
  rw [pollIfAny, Run.bind_map, poll]
  cases answered : (spec.run (e.look identifier) (some deadline) env now).answer with
  | error failure => rw [Run.bind_of_error answered]
  | ok report =>
    rw [Run.bind_of_ok answered, Run.monadLift_apply, Outcome.delayed_events, List.append_nil]

/-- A poll for absence among such events succeeds. -/
theorem SeesNothing.pollIfAny {events : List Event} (sees : e.SeesNothing identifier events)
    {spec : Option PollSpec}
    (sound : ∀ wanted ∈ spec, wanted.Sound ∧ wanted.notFoundIsTarget = true) {deadline : Nat}
    {env : σ} {now : Nat} (part : (e.pollIfAny spec identifier deadline env now).events ⊆ events) :
    (e.pollIfAny spec identifier deadline env now).answer = .ok () := by
  -- Without a poll there is nothing to wait for.
  cases spec with
  | none => rfl
  | some spec =>
    obtain ⟨sound, target⟩ := sound spec rfl
    rw [pollIfAny_events] at part
    -- The first look already sees that there is nothing.
    have first := PollSpec.firstLook_events_subset sound (e.look identifier) (some deadline) env now
    rw [look_events] at first
    have gone := look_of_absent (sees.fetch (List.Subset.trans first part))
    obtain ⟨report, reported, succeeded⟩ := PollSpec.run_of_gone sound target gone
    have reached : report.result (e.descriptor identifier).text = .ok none := by
      rw [Report.result, succeeded]
    rw [Engine.pollIfAny, Run.bind_map, poll, Run.bind_of_ok reported, reached]
    rfl

/-- What a deletion does is done by its reads, by its removal, or while it pauses. -/
theorem delete_does {sort : Event → Prop} (reads : (e.fetch identifier).Does sort)
    (pauses : ∀ asleep wake, sort (.sleep asleep wake))
    (removes : ∀ isPrepaid, (e.remove identifier isPrepaid).Does sort) (current : State) :
    (e.delete identifier current).Does sort := by
  -- The parts of a deletion are its polls, its settlement, and both behind the removal.
  have polls (deadline : Nat) :
      (e.pollIfAny e.blueprint.deletePoll identifier deadline).Does sort := by
    intro env now
    -- Every look of the poll is a read.
    cases e.blueprint.deletePoll with
    | none => exact Run.Does.pure () sort env now
    | some spec =>
      rw [pollIfAny_events]
      refine spec.run_does (fun env now => ?_) pauses (some deadline) env now
      rw [look_events]
      exact reads env now
  -- A settlement does nothing but read the object.
  have settles (isPrepaid : Bool) (failure : Failure) :
      (e.settle identifier isPrepaid failure).Does sort := by
    unfold settle
    split
    · exact .pure _ _
    · split
      · refine reads.bind fun found => ?_
        cases found with
        | some document => exact .fail _ _
        | none => exact .pure _ _
      · exact .fail _ _
  have goes (isPrepaid : Bool) (deadline : Nat) :
      (e.removeAndWait identifier isPrepaid deadline).Does sort := by
    refine (removes isPrepaid).attempt.bind fun removed => ?_
    cases removed with
    | ok => exact polls deadline
    | error failure => exact settles isPrepaid failure
  -- What is prepaid is read first, and only removed if it is there.
  refine .now_bind fun start => ?_
  dsimp only
  split
  · refine reads.bind fun found => ?_
    cases found with
    | some document => exact goes true _
    | none => exact .pure _ _
  · exact goes false _

/-- Where every reply to a read shows that the object is not there, deleting it sees nothing. -/
theorem SeesNothing.of_remote {request : Request}
    (formed : e.request e.blueprint.read (some identifier) = .ok request)
    (absent : ∀ env, e.ShowsAbsent identifier (e.remote.reply request env).answer)
    (current : State) (env : σ) (now : Nat) :
    e.SeesNothing identifier (e.delete identifier current env now).events := by
  refine ⟨⟨request, formed⟩, ?_⟩
  -- Whatever is sent for whatever reason, if it is the request of a read, then its reply is one.
  have sent (asked : Request) (env : σ) (start finish : Nat) (answer : Except Failure Response)
      (read : e.IsRead identifier answer
        (.call start finish asked (e.remote.reply asked env).answer)) :
      e.ShowsAbsent identifier answer := by
    obtain ⟨_, _, other, again, same⟩ := read
    cases same
    cases formed.symm.trans again
    exact absent env
  suffices does : (e.delete identifier current).Does fun event =>
      ∀ answer, e.IsRead identifier answer event → e.ShowsAbsent identifier answer from does env now
  refine delete_does ?_ ?_ ?_ current
  · -- A read is that very request.
    intro env now event member answer read
    rw [fetch_of_request formed] at member
    cases List.mem_singleton.mp member
    exact sent request env _ _ answer read
  · -- A pause is no request.
    rintro asleep wake answer ⟨_, _, _, _, same⟩
    cases same
  · intro isPrepaid
    unfold remove
    split
    · cases e.billing with
      | none => exact .fail _ _
      | some client =>
        rintro env now event member answer ⟨_, _, _, _, same⟩
        cases List.mem_singleton.mp member
        cases same
    · -- The request of the kind may happen to be the same as a read.
      refine (Run.Does.monadLift _ _).bind fun asked => Run.Does.bind ?_ fun _ => .pure _ _
      intro env now event member answer read
      cases List.mem_singleton.mp member
      exact sent asked env _ _ answer read

/-- A deletion removes an object by taking back its subscription if it is prepaid, and else by the
request of its kind. -/
inductive TakesAway (e : Engine σ) (identifier : String) (attributes : Attributes) :
    Event → Prop where
  | request {start finish : Nat} {request : Request} {answer : Except Failure Response} :
      e.isPrepaid attributes = false →
      e.request e.blueprint.delete (some identifier) = .ok request →
      TakesAway e identifier attributes (.call start finish request answer)
  | subscription {start : Nat} {failure : Option Failure} {inner : List Event} :
      e.isPrepaid attributes = true →
      TakesAway e identifier attributes
        (.billing start (.unsubscribe [identifier]) failure inner)

/-- An event is a read of an object which showed that it is not there. -/
def IsMiss (e : Engine σ) (identifier : String) (event : Event) : Prop :=
  ∃ answer, e.IsRead identifier answer event ∧ e.ShowsAbsent identifier answer

/-- What happens is watching an object, and at most one removal of it, in front of which no read
showed that it is not there. -/
inductive RemovesOnce (e : Engine σ) (identifier : String) (attributes : Attributes) :
    List Event → Prop where
  | watched {events : List Event} : (∀ event ∈ events, e.IsWatch identifier event) →
      RemovesOnce e identifier attributes events
  | removed {before after : List Event} {removal : Event} :
      (∀ event ∈ before, e.IsWatch identifier event ∧ ¬e.IsMiss identifier event) →
      e.TakesAway identifier attributes removal →
      (∀ event ∈ after, e.IsWatch identifier event) →
      RemovesOnce e identifier attributes (before ++ removal :: after)

/-- A deletion by the request of the kind sends that once. -/
theorem Removes.removesOnce {attributes : Attributes} (unpaid : e.isPrepaid attributes = false)
    {answer : Except Failure Unit} {events : List Event}
    (removes : e.Removes identifier answer events) :
    e.RemovesOnce identifier attributes events := by
  -- In front of the one request nothing has happened yet.
  cases removes with
  | unsent => exact .watched (by simp)
  | sent formed watches =>
    have nothing : ∀ event ∈ [], e.IsWatch identifier event ∧ ¬e.IsMiss identifier event := by simp
    exact RemovesOnce.removed nothing (.request unpaid formed) watches

/-- To settle a failed removal is to watch the object. -/
theorem Settles.isWatch {failure : Failure} {answer : Except Failure Unit} {again : List Event}
    (settles : e.Settles identifier failure answer again) :
    ∀ event ∈ again, e.IsWatch identifier event := by
  -- All that settling can do is read once more.
  cases settles with
  | covered => simp
  | absent _ reads | alive _ reads | unread _ reads => exact reads.isWatch

/-- A deletion by way of the subscription takes that back once, and only behind a read that found
the object. -/
theorem Withdraws.removesOnce {attributes : Attributes} (paid : e.isPrepaid attributes = true)
    {answer : Except Failure Unit} {events : List Event}
    (withdraws : e.Withdraws identifier answer events) :
    e.RemovesOnce identifier attributes events := by
  -- Only behind a read that found the object is there a call to the billing side.
  have present {document : Document} {looked : List Event}
      (reads : e.Reads identifier (.ok (some document)) looked) :
      ∀ event ∈ looked, e.IsWatch identifier event ∧ ¬e.IsMiss identifier event := by
    intro event member
    refine ⟨reads.isWatch event member, ?_⟩
    rintro ⟨answer, read, absent⟩
    exact reads.not_absent member read absent
  cases withdraws with
  | unread reads | absent reads => exact .watched reads.isWatch
  | released _ reads watched => exact .removed (present reads) (.subscription paid) watched.watches
  | refused reads refuses settles =>
    cases refuses with
    | unbilled =>
      -- Without a billing side both looks are all that happens.
      refine .watched fun event member => ?_
      rcases List.mem_append.mp member with looked | settled
      · exact reads.isWatch event looked
      · exact settles.isWatch event settled
    | failed => exact .removed (present reads) (.subscription paid) settles.isWatch

/-- Every deletion removes the object at most once. -/
theorem delete_removesOnce (e : Engine σ) (identifier : String) (current : State) (env : σ)
    (now : Nat) :
    e.RemovesOnce identifier current.attributes (e.delete identifier current env now).events := by
  -- Who pays when decides which of the two removals there can be.
  cases paid : e.isPrepaid current.attributes with
  | false => exact (delete_removes paid identifier env now).removesOnce paid
  | true => exact (delete_withdraws paid env now).removesOnce paid

/-- Watching an object takes nothing away when it is not read by the method that removes it. -/
theorem IsWatch.not_takesAway {attributes : Attributes} {event : Event}
    (watch : e.IsWatch identifier event)
    (apart : e.blueprint.delete.method ≠ e.blueprint.read.method) :
    ¬e.TakesAway identifier attributes event := by
  -- A removal is a request by the other method, or a billing call.
  intro takesAway
  cases takesAway with
  | request _ formed =>
    rcases watch with ⟨_, _, _, _, read, same⟩ | ⟨_, _, same⟩
    · -- The same request would have both methods.
      cases same
      exact apart ((method_of_request formed).symm.trans (method_of_request read))
    · cases same
  | subscription => exact IsWatch.not_billing watch

/-- Two events stand as they should if the first one is in front of a removal, or the second one
behind it, and always if there is none. -/
theorem RemovesOnce.pairwise {attributes : Attributes} {events : List Event}
    {stand : Event → Event → Prop} (removesOnce : e.RemovesOnce identifier attributes events)
    (early : ∀ earlier, e.IsWatch identifier earlier → ¬e.IsMiss identifier earlier →
      ∀ later, stand earlier later)
    (late : ∀ later, e.IsWatch identifier later → ∀ earlier, stand earlier later) :
    events.Pairwise stand := by
  -- The events in front of the removal are early ones, and those behind it are late ones.
  cases removesOnce with
  | watched watches =>
    apply List.pairwise_of_forall_mem_list
    intro earlier _ later member
    exact late later (watches later member) earlier
  | @removed before after removal front _ behind =>
    have first : ∀ earlier ∈ before, ∀ later, stand earlier later := fun earlier member =>
      early earlier (front earlier member).1 (front earlier member).2
    have last : ∀ later ∈ after, ∀ earlier, stand earlier later := fun later member =>
      late later (behind later member)
    rw [List.pairwise_append, List.pairwise_cons]
    refine ⟨?_, ⟨fun later member => last later member removal, ?_⟩, ?_⟩
    · apply List.pairwise_of_forall_mem_list
      exact fun earlier member later _ => first earlier member later
    · apply List.pairwise_of_forall_mem_list
      exact fun earlier _ later member => last later member earlier
    · exact fun earlier member later _ => first earlier member later

/-- Where the two methods differ, no two events are removals. -/
theorem RemovesOnce.atMostOnce {attributes : Attributes} {events : List Event}
    (removesOnce : e.RemovesOnce identifier attributes events)
    (apart : e.blueprint.delete.method ≠ e.blueprint.read.method) :
    events.Pairwise fun earlier later =>
      ¬(e.TakesAway identifier attributes earlier ∧ e.TakesAway identifier attributes later) := by
  -- One of any two events is in front of the removal or behind it, and so watches.
  apply removesOnce.pairwise
  · exact fun earlier watch _ later both => watch.not_takesAway apart both.1
  · exact fun later watch earlier both => watch.not_takesAway apart both.2

/-- No billing call follows a read that showed that the object is not there. -/
theorem RemovesOnce.not_billing_of_miss {attributes : Attributes} {events : List Event}
    (removesOnce : e.RemovesOnce identifier attributes events) :
    events.Pairwise fun earlier later => e.IsMiss identifier earlier →
      ∀ start call failure inner, later ≠ .billing start call failure inner := by
  -- A miss is never in front of the removal, and behind it nothing is billed.
  apply removesOnce.pairwise
  · exact fun earlier _ present later miss => absurd miss present
  · rintro later watch earlier - start call failure inner rfl
    exact IsWatch.not_billing watch

/-- Watching an object makes no billing calls. -/
theorem billingCalls_of_isWatch {events : List Event}
    (watches : ∀ event ∈ events, e.IsWatch identifier event) : Event.billingCalls events = [] :=
  Event.billingCalls_eq_nil fun event member => (watches event member).not_isBilling

/-- What is prepaid and not there any more is deleted without a call to the billing side. -/
theorem SeesNothing.delete_prepaid {current : State}
    (paid : e.isPrepaid current.attributes = true) {env : σ} {now : Nat}
    (sees : e.SeesNothing identifier (e.delete identifier current env now).events) :
    let o := e.delete identifier current env now
    o.answer = .ok () ∧ Event.billingCalls o.events = [] := by
  -- The first look is enough.
  rw [delete, Run.now_bind, if_pos paid] at sees ⊢
  have looked : (e.fetch identifier env now).answer = .ok none := by
    apply sees.fetch
    -- Whatever comes of the read, its events are the first of the deletion.
    cases answered : (e.fetch identifier env now).answer with
    | error failure =>
      rw [Run.bind_of_error answered]
      exact fun _ member => member
    | ok found =>
      rw [Run.bind_of_ok answered]
      exact List.subset_append_left _ _
  rw [Run.bind_of_ok looked]
  simp only [Run.pure_apply, Outcome.delayed_answer, Outcome.delayed_events, List.append_nil,
    true_and]
  exact billingCalls_of_isWatch (e.fetch_reads identifier env now).isWatch

/-- The request of the kind is all that goes before a deletion waits. -/
theorem delete_of_reply {current : State} (unpaid : e.isPrepaid current.attributes = false)
    {request : Request} (formed : e.request e.blueprint.delete (some identifier) = .ok request)
    (env : σ) (now : Nat) :
    let reply := e.remote.reply request env
    let later := now + reply.delay
    e.delete identifier current env now =
      ((match reply.answer with
      | .ok _ => e.pollIfAny e.blueprint.deletePoll identifier
          (Instant.after now e.timeouts.delete) reply.env later
      | .error failure => e.settle identifier false failure reply.env later).delayed
        reply.delay [.call now later request reply.answer]) := by
  -- What is not prepaid is removed by a request at once.
  rw [delete, Run.now_bind, if_neg (by simp [unpaid]), removeAndWait, Run.attempt_bind, remove,
    if_neg Bool.false_ne_true, formed, Run.monadLift_ok_bind, Run.bind_map]
  simp only [Remote.send]
  -- The answer itself is of no use, only whether there is one.
  cases (e.remote.reply request env).answer <;> rfl

/-- What is not prepaid and not there any more is deleted once its request has been answered. -/
theorem SeesNothing.delete_postpaid {current : State}
    (unpaid : e.isPrepaid current.attributes = false)
    (sound : ∀ spec ∈ e.blueprint.deletePoll, spec.Sound ∧ spec.notFoundIsTarget = true)
    {request : Request} (formed : e.request e.blueprint.delete (some identifier) = .ok request)
    {env : σ} {now : Nat}
    (sees : e.SeesNothing identifier (e.delete identifier current env now).events)
    {response : Response} (answered : (e.remote.reply request env).answer = .ok response) :
    (e.delete identifier current env now).answer = .ok () := by
  -- All that is left after the request is the poll, and what it sees is part of what is seen.
  rw [delete_of_reply unpaid formed] at sees ⊢
  simp only [answered, Outcome.delayed_events, Outcome.delayed_answer] at sees ⊢
  exact sees.pollIfAny sound (List.subset_append_right _ _)

/-- A request that fails as if the object were not there is all that a deletion does. -/
theorem delete_of_covered_reply {current : State}
    (unpaid : e.isPrepaid current.attributes = false) {request : Request}
    (formed : e.request e.blueprint.delete (some identifier) = .ok request) {env : σ}
    {failure : Failure} (failed : (e.remote.reply request env).answer = .error failure)
    (covered : e.blueprint.notFound.covers failure = true) (now : Nat) :
    let reply := e.remote.reply request env
    e.delete identifier current env now = ⟨.ok (), reply.env, reply.delay,
      [.call now (now + reply.delay) request (.error failure)]⟩ := by
  -- A covered failure is settled as a success, without another look.
  rw [delete_of_reply unpaid formed]
  simp only [failed, settle, covered, if_true, Run.pure_apply, Outcome.delayed, Nat.add_zero,
    List.append_nil]

/--
Deleting an object that is not there succeeds, and no deletion removes an object twice.

What is prepaid is not taken back then, whatever the billing side would answer. For anything else
the request of the kind has to succeed, or to fail as if the object were not there, which ends the
deletion at once. In no run is there more than one removal, or a billing call behind a read that
showed that the object is not there.
-/
theorem delete_idempotent (e : Engine σ) (identifier : String) (current : State) (env : σ)
    (now : Nat) :
    let o := e.delete identifier current env now
    (e.isPrepaid current.attributes = true → e.SeesNothing identifier o.events →
      o.answer = .ok () ∧ Event.billingCalls o.events = []) ∧
    (e.isPrepaid current.attributes = false →
      ∀ request, e.request e.blueprint.delete (some identifier) = .ok request →
      let reply := e.remote.reply request env
      (∀ response, reply.answer = .ok response →
        (∀ spec ∈ e.blueprint.deletePoll, spec.Sound ∧ spec.notFoundIsTarget = true) →
        e.SeesNothing identifier o.events → o.answer = .ok ()) ∧
      ∀ failure, reply.answer = .error failure → e.blueprint.notFound.covers failure = true →
        o.answer = .ok () ∧
          o.events = [.call now (now + reply.delay) request (.error failure)]) ∧
    e.RemovesOnce identifier current.attributes o.events ∧
    (e.blueprint.delete.method ≠ e.blueprint.read.method →
      o.events.Pairwise fun earlier later =>
        ¬(e.TakesAway identifier current.attributes earlier ∧
          e.TakesAway identifier current.attributes later)) ∧
    o.events.Pairwise fun earlier later => e.IsMiss identifier earlier →
      ∀ start call failure inner, later ≠ .billing start call failure inner := by
  -- The first two parts say how a deletion ends, and the others how often it removes.
  intro o
  have removesOnce := e.delete_removesOnce identifier current env now
  refine ⟨fun paid sees => sees.delete_prepaid paid, fun unpaid request formed => ⟨?_, ?_⟩,
    removesOnce, removesOnce.atMostOnce, removesOnce.not_billing_of_miss⟩
  · intro response answered sound sees
    exact sees.delete_postpaid unpaid sound formed answered
  · intro failure failed covered
    have ended := delete_of_covered_reply unpaid formed failed covered now
    rw [show o = _ from ended]
    exact ⟨rfl, rfl⟩

/-- A volume that is not there is deleted at once if it is prepaid, and else when its request is
answered, be it with the status of an object that is gone. -/
theorem delete_idempotent_volume :
    let missing : Except Failure Response := .error (.unexpectedStatus 404 "")
    let obliging : Engine Unit :=
      { kind := Catalogue.Volume.kind
        remote := ⟨fun request env =>
          ⟨if request.method = .delete then .ok ⟨204, .null⟩ else missing, 0, env⟩⟩
        params := Dict.empty.insert "project_id" "p1" }
    let refusing : Engine Unit := { obliging with remote := ⟨fun _ env => ⟨missing, 0, env⟩⟩ }
    let paid : State := .found ⟨"hcs_evs_volume", "data"⟩ "v-1"
      (Dict.empty.insert "charging_mode" (.string prepaid))
    let unpaid : State := .found ⟨"hcs_evs_volume", "data"⟩ "v-1" Dict.empty
    ((obliging.delete "v-1" paid () 0).answer = .ok () ∧
      Event.billingCalls (obliging.delete "v-1" paid () 0).events = []) ∧
    (obliging.delete "v-1" unpaid () 0).answer = .ok () ∧
    (refusing.delete "v-1" unpaid () 0).answer = .ok () ∧
      (refusing.delete "v-1" unpaid () 0).events.length = 1 := by
  intro missing obliging refusing paid unpaid
  -- Both requests can be formed, and all replies but one are that there is nothing.
  have readable : (obliging.request obliging.blueprint.read (some "v-1")).toOption.isSome =
      true := by
    decide +kernel
  have removable : (obliging.request obliging.blueprint.delete (some "v-1")).toOption.isSome =
      true := by
    decide +kernel
  -- The same two requests serve all three deletions.
  obtain ⟨read, asked⟩ := exists_ok_of_isSome readable
  obtain ⟨delete, formed⟩ := exists_ok_of_isSome removable
  have absent (env : Unit) :
      obliging.ShowsAbsent "v-1" (obliging.remote.reply read env).answer := by
    have method : read.method = .get := method_of_request asked
    simp only [obliging, method]
    exact .missing (by decide)
  have answered : (obliging.remote.reply delete ()).answer = .ok ⟨204, .null⟩ := by
    have method : delete.method = .delete := method_of_request formed
    simp only [obliging, method, if_true]
  have sound : ∀ spec ∈ obliging.blueprint.deletePoll,
      spec.Sound ∧ spec.notFoundIsTarget = true := by
    rintro spec ⟨rfl⟩
    exact ⟨PollSpec.fault?_eq_none_iff.mp (by decide), rfl⟩
  -- The deletions are of a prepaid volume, of one whose removal is granted, and of one whose
  -- removal is refused as absent.
  have first := (obliging.delete_idempotent "v-1" paid () 0).1 (by decide)
    (.of_remote asked absent paid () 0)
  have second := ((obliging.delete_idempotent "v-1" unpaid () 0).2.1 (by decide) delete formed).1
    _ answered sound (.of_remote asked absent unpaid () 0)
  have third := ((refusing.delete_idempotent "v-1" unpaid () 0).2.1 (by decide) delete formed).2
    _ rfl (by decide)
  exact ⟨first, second, third.1, by rw [third.2]; rfl⟩

end Provision.Engine
