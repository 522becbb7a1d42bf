import Provision.Proofs.Engine.Create
import Provision.Proofs.Engine.Refusal
import Provision.Proofs.Engine.Search

/-! A creation blames the configuration before it sends anything, but in one case: that there is no
billing side for something prepaid shows only after the object has been made. -/

namespace Provision

variable {σ α β : Type}

/-- A run that never blames the configuration for its failure. -/
def Run.Configured (run : Run σ α) : Prop :=
  ∀ env now message, (run env now).answer ≠ .error (.invalidConfiguration message)

/-- A run that refuses nothing does not blame the configuration. -/
theorem Run.Unrefusing.configured {run : Run σ α} (quiet : run.Unrefusing) : run.Configured := by
  -- To blame the configuration is to refuse.
  intro env now message failed
  have refuses := quiet env now _ failed
  cases refuses

/-- Runs in sequence do not blame the configuration when none of them does. -/
theorem Run.Configured.bind {first : Run σ α} {next : α → Run σ β} (configured : first.Configured)
    (later : ∀ between, (next between).Configured) : (first >>= next).Configured := by
  -- A failure of both comes from one of them.
  intro env now message failed
  rcases bind_answer_eq_error.mp failed with early | ⟨between, -, late⟩
  · exact configured env now message early
  · exact later between _ _ message late

/-- The billing side blames the configuration for the failure of a call. -/
def Event.Blames (event : Event) : Prop :=
  ∃ start call message inner,
    event = .billing start call (some (.invalidConfiguration message)) inner

namespace Engine

variable {e : Engine σ} {resource : Resource} {identifier message : String} {deadline : Nat}

/-- The search for an order refuses nothing. -/
theorem seek_unrefusing (plain : e.remote.FailsPlainly) (lookup : Option (Request × String))
    (named : Option String) (label : String) (deadline : Nat) :
    (e.seek lookup named label deadline).Unrefusing := by
  -- A lookup fails as its request does, or over a malformed path.
  have looks : (e.orderLookup lookup).Unrefusing := by
    intro env now failure failed
    unfold orderLookup at failed
    split at failed
    · cases failed
    · cases lookup with
      | none => cases failed
      | some sent =>
        exact ((plain.send sent.1).bind fun response =>
          .monadLift (unrefusing_of_path _)) _ _ failure failed
  intro env now failure failed
  have answered : (Order.awaitOrder label (e.orderLookup lookup) deadline (named, env)
      now).answer = .error failure := failed
  rw [Order.awaitOrder_apply] at answered
  -- The search is a poll of such lookups.
  have polls := (Order.appearance (deadline - now)).run_unrefusing
    (looks.bind fun order => .pure (Order.observe order)) (some deadline) (named, env) now
  exact unrefusing_bind polls (fun report other failed => by
    -- That no order appeared is a failure of its own.
    unfold Order.record at failed
    split at failed <;> cases failed
    rfl) failure answered

/-- To compensate for an object refuses nothing, for its failures are caught. -/
theorem compensate_unrefusing (e : Engine σ) (resource : Resource) (identifier : String) :
    (e.compensate resource identifier).Unrefusing := by
  -- An object that is left in place is not touched.
  unfold compensate
  split
  · exact .pure ()
  · intro env now failure failed
    cases failed

/-- Waiting for a new object refuses nothing. -/
theorem awaitReady_unrefusing (plain : e.remote.FailsPlainly) :
    (e.awaitReady resource identifier deadline).Unrefusing := by
  -- The poll fails for reasons of its own, and these stay.
  refine (pollIfAny_unrefusing plain).attempt_bind fun polled quiet => ?_
  cases polled with
  | ok => exact .pure ()
  | error failure =>
    refine (compensate_unrefusing e resource identifier).bind fun _ => ?_
    exact fun env now other failed => quiet other failed

/-- Adding tags to a new object refuses nothing. -/
theorem tagNew_unrefusing (plain : e.remote.FailsPlainly) :
    (e.tagNew resource identifier).Unrefusing := by
  -- The tags are applied in stages, each of which has the request of a tag action.
  unfold tagNew
  split
  · rw [applyTags_eq e _ identifier none _ 0]
    refine carryOut_unrefusing plain fun stage member => ?_
    rcases List.mem_append.mp member with removed | added
    · exact request_of_mem_tagStages removed ▸ tagRequest_unrefusing e _ _ _ _
    · exact request_of_mem_tagStages added ▸ tagRequest_unrefusing e _ _ _ _
  · exact .pure ()

/-- Finding a new object does not blame the configuration. -/
theorem find_configured (plain : e.remote.FailsPlainly) :
    (e.find resource identifier).Configured := by
  -- The read does not blame it, and a missing object is a failure of another sort.
  refine (read_unrefusing plain).configured.bind fun state env now message failed => ?_
  cases present : state.present with
  | true =>
    rw [present, if_pos rfl] at failed
    cases failed
  | false =>
    rw [present, if_neg Bool.false_ne_true] at failed
    cases failed

/-- The request that looks an order up refuses nothing. -/
theorem lookupRequest_unrefusing (e : Engine σ) (terms : BillingTerms) (created : Option String) :
    Unrefusing (e.lookupRequest terms created) := by
  -- At most a name in the path is missing.
  unfold lookupRequest
  split
  · exact unrefusing_bind (request_unrefusing e _ _) fun _ _ failed => nomatch failed
  · exact fun _ failed => nomatch failed

/-- A billing call that blames the configuration is an event that does. -/
theorem Bills.blames {call : Nat → BillingCall} {answer : Except Failure α} {events : List Event}
    (bills : Bills call answer events) (failed : answer = .error (.invalidConfiguration message)) :
    ∃ event ∈ events, event.Blames := by
  -- The call is recorded with the failure that it answers.
  cases bills with
  | granted => cases failed
  | denied =>
    cases failed
    exact ⟨_, List.mem_singleton_self _, _, _, _, _, rfl⟩

/-- So it is for the calls that follow when an order has been found. -/
theorem billing_blames {order : String} {created : Option String} {events : List Event}
    (goes : Protocol.andThen (Bills (α := Unit) fun start => .waitOrder order (deadline - start))
      (fun _ => Produces order deadline created) (.error (.invalidConfiguration message)) events) :
    ∃ event ∈ events, event.Blames := by
  -- The failure is that of the first call or of the second.
  cases goes with
  | stopped bills => exact Bills.blames bills rfl
  | passed _ produces =>
    cases produces with
    | asked bills =>
      obtain ⟨event, member, blames⟩ := Bills.blames bills rfl
      exact ⟨event, List.mem_append_right _ member, blames⟩

/-- That something prepaid has no billing side is the only reason for which the identification of a
new object blames the configuration, unless the billing side does so. -/
theorem identify_misconfigured (plain : e.remote.FailsPlainly) {answer : Document} {env : σ}
    {now : Nat} (failed : (e.identify resource answer deadline env now).answer =
      .error (.invalidConfiguration message)) :
    (e.isPrepaid resource.attributes = true ∧ e.billing = none ∧
        ∃ created, answer.readText? e.blueprint.idPath = .ok created) ∨
      ∃ event ∈ (e.identify resource answer deadline env now).events, event.Blames := by
  -- No path and no request blames the configuration, and no search for an order does.
  have quiet {α : Type} {formed : Except Failure α} (unrefusing : Unrefusing formed)
      (failed : formed = .error (.invalidConfiguration message)) : False := by
    cases unrefusing _ failed
  have identifies := e.identify_obeys resource answer deadline env now
  rw [failed] at identifies
  generalize (e.identify resource answer deadline env now).events = events at identifies ⊢
  cases identifies with
  | unread unread => exact (quiet (unrefusing_of_path _) unread).elim
  | ordered prepaid priced read orders =>
    cases orders with
    | unbilled unbilled => exact .inl ⟨prepaid, unbilled, _, read⟩
    | unformed _ unformed => exact (quiet (lookupRequest_unrefusing e _ _) unformed).elim
    | unread _ _ unread => exact (quiet (unrefusing_of_path _) unread).elim
    | placed _ _ goes =>
      cases goes with
      | stopped seeks =>
        obtain ⟨lookup, env, now, -, sought, -⟩ := seeks.sought
        exact (quiet (seek_unrefusing plain lookup _ _ _ env now) sought).elim
      | passed _ rest =>
        -- Whatever is left to fail are the calls to the billing side.
        obtain ⟨event, member, blames⟩ := billing_blames rest
        exact .inr ⟨event, List.mem_append_right _ member, blames⟩

/-- To make an object blames the configuration before the request, for the lack of a billing side,
or because the billing side does. -/
theorem make_misconfigured (plain : e.remote.FailsPlainly) {env : σ} {now : Nat}
    (failed : (e.make resource deadline env now).answer = .error (.invalidConfiguration message)) :
    (e.make resource deadline env now).events = [] ∨
      (e.isPrepaid resource.attributes = true ∧ e.billing = none ∧
        ∃ request response created, e.createRequest resource = .ok request ∧
          (e.remote.reply request env).answer = .ok response ∧
          response.body.readText? e.blueprint.idPath = .ok created) ∨
      ∃ event ∈ (e.make resource deadline env now).events, event.Blames := by
  -- An object is made in three steps: the request is formed, sent, and its answer read.
  cases formed : e.createRequest resource with
  | error failure =>
    -- Where there is no request, nothing has been sent.
    rw [make, formed]
    exact .inl rfl
  | ok request =>
    obtain ⟨unanswered, answered⟩ := make_of_request formed deadline env now
    cases replied : (e.remote.reply request env).answer with
    | error other =>
      rw [unanswered other replied] at failed
      cases failed
      cases plain request env _ replied
    | ok response =>
      rw [answered response replied] at failed ⊢
      rcases identify_misconfigured plain failed with
        ⟨prepaid, unbilled, created, read⟩ | ⟨event, member, blames⟩
      · exact .inr (.inl ⟨prepaid, unbilled, request, response, created, rfl, replied, read⟩)
      · exact .inr (.inr ⟨event, List.mem_append_right _ member, blames⟩)

/-- Something prepaid without a billing side is made all the same, and then given up. -/
theorem create_of_unbilled {wanted : Resource}
    (prepaid : e.isPrepaid (e.completed wanted).attributes = true) (unbilled : e.billing = none)
    {request : Request} (formed : e.createRequest (e.completed wanted) = .ok request) (env : σ)
    {response : Response} (answered : (e.remote.reply request env).answer = .ok response)
    {created : Option String} (read : response.body.readText? e.blueprint.idPath = .ok created)
    (now : Nat) :
    let reply := e.remote.reply request env
    e.create wanted env now = ⟨.error (.invalidConfiguration
        (wanted.id.text ++ ": prepaid resources need a billing client")), reply.env, reply.delay,
      [.call now (now + reply.delay) request (.ok response)]⟩ := by
  -- The request has been answered when the order turns out to have no billing side.
  intro reply
  let deadline := Instant.after now e.timeouts.create
  have identified : e.identify (e.completed wanted) response.body deadline =
      Run.fail (.invalidConfiguration
        (wanted.id.text ++ ": prepaid resources need a billing client")) := by
    rw [identify, read, Run.monadLift_ok_bind, if_pos prepaid, awaitOrder, unbilled]
    rfl
  have made := (make_of_request formed deadline env now).2 response answered
  rw [identified, Run.fail_apply] at made
  have failed : (e.make (e.completed wanted) deadline env now).answer =
      .error (.invalidConfiguration
        (wanted.id.text ++ ": prepaid resources need a billing client")) := by
    rw [made]
    rfl
  -- What fails to be made is not waited for, and not removed again.
  rw [create_eq, Run.now_bind, createUntil, Run.bind_of_error failed, made, answered]
  simp only [Outcome.delayed, Nat.add_zero, List.append_nil]
  rfl

/--
A creation that has sent something blames the configuration only for the lack of a billing side.

The billing side itself may blame it, too, if there is one. If there is none, then something prepaid
has been made by the time at which that shows, and is left behind.
-/
theorem create_misconfigured_iff (plain : e.remote.FailsPlainly) (wanted : Resource) (env : σ)
    (now : Nat) :
    let o := e.create wanted env now
    ((∃ message, o.answer = .error (.invalidConfiguration message)) ∧ o.events ≠ [] ∧
        ¬∃ event ∈ o.events, event.Blames) ↔
      e.isPrepaid (e.completed wanted).attributes = true ∧ e.billing = none ∧
        ∃ request response created, e.createRequest (e.completed wanted) = .ok request ∧
          (e.remote.reply request env).answer = .ok response ∧
          response.body.readText? e.blueprint.idPath = .ok created := by
  intro o
  -- Behind the request, only making the object can blame the configuration.
  constructor
  · rintro ⟨⟨message, failed⟩, sent, blameless⟩
    let deadline := Instant.after now e.timeouts.create
    have created : o = e.createUntil (e.completed wanted) deadline env now := by
      rw [show o = _ from congrFun (congrFun (e.create_eq wanted) env) now, Run.now_bind]
    rw [created] at failed sent blameless
    rw [createUntil] at failed sent blameless
    cases answered : (e.make (e.completed wanted) deadline env now).answer with
    | error failure =>
      -- What is done then is all that has been done.
      rw [Run.bind_of_error answered] at failed sent blameless
      cases failed
      rcases make_misconfigured plain answered with nothing | unbilled | blamed
      · exact absurd nothing sent
      · exact unbilled
      · exact absurd blamed blameless
    | ok identifier =>
      -- None of the later phases blames the configuration.
      have later : (do
          e.awaitReady (e.completed wanted) identifier deadline
          e.tagNew (e.completed wanted) identifier
          e.find (e.completed wanted) identifier : Run σ State).Configured :=
        (awaitReady_unrefusing plain).configured.bind fun _ =>
          (tagNew_unrefusing plain).configured.bind fun _ => find_configured plain
      rw [Run.bind_of_ok answered] at failed
      exact (later _ _ message failed).elim
  · -- In the other direction the creation can be computed.
    rintro ⟨prepaid, unbilled, request, response, created, formed, answered, read⟩
    have ended := create_of_unbilled prepaid unbilled formed env answered read now
    rw [show o = _ from ended]
    refine ⟨⟨_, rfl⟩, List.cons_ne_nil _ _, ?_⟩
    rintro ⟨event, member, _, _, _, _, rfl⟩
    cases List.mem_singleton.mp member

/-- An answer that names a new volume and its order. -/
def volumeAnswer : Document :=
  .object [("order_id", .string "CS1"), ("volume_ids", .array [.string "v-1"])]

/-- Volumes where they are made as soon as that is asked for, without a billing side. -/
def unbilledVolumes : Engine Unit where
  kind := Catalogue.Volume.kind
  remote := ⟨fun _ env => ⟨.ok ⟨200, volumeAnswer⟩, 0, env⟩⟩
  params := Dict.empty.insert "project_id" "p1"

/-- A volume that is paid in advance. -/
def paidVolume : Resource := ⟨⟨"hcs_evs_volume", "data"⟩, Dict.ofList
  [ ("availability_zone", .string "az1"), ("volume_type", .string "SSD"), ("size", .int 40)
  , ("charging_mode", .string prepaid), ("period_unit", .string "month"), ("period", .int 1) ]⟩

/-- There is a request that makes that volume, and its answer identifies it. -/
theorem paidVolume_made :
    unbilledVolumes.isPrepaid (unbilledVolumes.completed paidVolume).attributes = true ∧
      ∃ request created,
        unbilledVolumes.createRequest (unbilledVolumes.completed paidVolume) = .ok request ∧
          volumeAnswer.readText? unbilledVolumes.blueprint.idPath = .ok created := by
  -- Defaults, request and answer are computed.
  have paid : unbilledVolumes.isPrepaid (unbilledVolumes.completed paidVolume).attributes = true :=
    by decide +kernel
  have requested : (unbilledVolumes.createRequest (unbilledVolumes.completed
      paidVolume)).toOption.isSome = true := by decide +kernel
  have named : (volumeAnswer.readText? unbilledVolumes.blueprint.idPath).toOption.isSome = true :=
    by decide +kernel
  obtain ⟨request, formed⟩ := exists_ok_of_isSome requested
  obtain ⟨created, read⟩ := exists_ok_of_isSome named
  exact ⟨paid, request, created, formed, read⟩

/-- Its creation blames the configuration after something has been sent. -/
theorem create_misconfigured_volume :
    let o := unbilledVolumes.create paidVolume () 0
    unbilledVolumes.remote.FailsPlainly ∧
      (∃ message, o.answer = .error (.invalidConfiguration message)) ∧ o.events ≠ [] ∧
        ¬∃ event ∈ o.events, event.Blames := by
  have plain : unbilledVolumes.remote.FailsPlainly := fun _ _ _ failed => nomatch failed
  obtain ⟨paid, request, created, formed, read⟩ := paidVolume_made
  exact ⟨plain, (create_misconfigured_iff plain paidVolume () 0).mpr
    ⟨paid, rfl, request, _, created, formed, rfl, read⟩⟩

/-- So a creation that blames the configuration may have sent something. -/
theorem create_misconfigured_after_request :
    ¬∀ (e : Engine Unit) (wanted : Resource) (env : Unit) (now : Nat) (message : String),
      (e.create wanted env now).answer = .error (.invalidConfiguration message) →
        (e.create wanted env now).events = [] := by
  -- The creation of that volume has sent its request.
  intro nothing
  obtain ⟨paid, request, created, formed, read⟩ := paidVolume_made
  have ended := create_of_unbilled paid rfl formed () rfl read 0
  have sent := nothing unbilledVolumes paidVolume () 0 _ (by rw [ended])
  rw [ended] at sent
  cases sent

end Engine

end Provision
