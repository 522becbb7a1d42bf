import Provision.Billing
import Provision.Catalogue.Volume
import Provision.Proofs.Engine.Create
import Provision.Proofs.Engine.Update
import Provision.Proofs.Poll.Deadline

/-! One deadline bounds each operation: it is handed on to every poll and every billing call. -/

namespace Provision

variable {σ : Type} {deadline : Nat}

namespace OrderService

variable {service : OrderService σ}

/-- A look at the status of an order is one request. -/
theorem lookAtOrder_keepsTo (service : OrderService σ) (order : String) :
    (service.lookAtOrder order).KeepsTo deadline :=
  (Run.KeepsTo.send _ _).bind fun _ => (Run.KeepsTo.monadLift _).bind fun _ => .pure _

/-- A look at the resources of an order is one request. -/
theorem lookAtResources_keepsTo (service : OrderService σ) (order : String) :
    (service.lookAtResources order).KeepsTo deadline := by
  -- What the listing shows is judged without another request.
  refine (Run.KeepsTo.send _ _).bind fun _ => (Run.KeepsTo.monadLift _).bind fun resource => ?_
  cases resource with
  | none => exact .pure _
  | some resource =>
    dsimp only
    split
    · exact .pure _
    · exact .pure _

/-- A poll that is given the time left until a deadline keeps to it. -/
theorem deadline_of_left (spec : PollSpec) (now : Nat) (given : spec.timeout = deadline - now) :
    spec.deadline none now ≤ max now deadline := by
  -- The time left is what the poll is given, from now on.
  simp only [PollSpec.deadline, Instant.after, given]
  omega

/-- With the time that is left until a deadline, waiting for an order keeps to the deadline. -/
theorem waitOrder_keepsTo (service : OrderService σ) (order : String) (env : σ) (now : Nat) :
    (service.waitOrder order (deadline - now) env now).KeepsTo deadline now := by
  -- The poll starts with the call, so the time left for the one is that for the other.
  unfold waitOrder
  refine Run.keepsTo_bind (PollSpec.run_keepsTo (service.lookAtOrder_keepsTo order) none
    (deadline_of_left _ now rfl) env) fun report => ?_
  cases report.verdict with
  | failed status => exact .fail _
  | succeeded | timedOut => exact (Run.KeepsTo.monadLift _).bind fun _ => .pure _

/-- With the time that is left until a deadline, waiting for the resource of an order keeps to the
deadline. -/
theorem orderResource_keepsTo (service : OrderService σ) (order : String) (env : σ) (now : Nat) :
    (service.orderResource order (deadline - now) env now).KeepsTo deadline now := by
  -- Again the poll is all that takes time.
  unfold orderResource
  refine Run.keepsTo_bind (PollSpec.run_keepsTo (service.lookAtResources_keepsTo order) none
    (deadline_of_left _ now rfl) env) fun report => (Run.KeepsTo.monadLift _).bind fun found => ?_
  cases found with
  | some resource => exact .pure _
  | none => exact .fail _

/-- Taking back subscriptions is one request. -/
theorem unsubscribe_keepsTo (service : OrderService σ) (resources : List String) :
    (service.unsubscribe resources).KeepsTo deadline :=
  (Run.KeepsTo.send _ _).bind fun _ => .pure _

end OrderService

/-- The search for an order keeps to the deadline that it is given. -/
theorem Order.awaitOrder_keepsTo (label : String) {lookup : Run σ (Option String)}
    (looks : lookup.KeepsTo deadline) : (awaitOrder label lookup deadline).KeepsTo deadline := by
  -- The search is a poll that knows the deadline itself, besides the time left until then.
  intro env now
  have observes : (sight lookup).KeepsTo deadline := looks.bind fun _ => .pure _
  have bounded : (appearance (deadline - now)).deadline (some deadline) now ≤ max now deadline := by
    rw [appearance_deadline]
    omega
  rw [awaitOrder_apply]
  exact (PollSpec.run_keepsTo observes _ bounded env).of_eq rfl rfl

namespace Engine

variable {e : Engine σ} {identifier : String} {resource : Resource}

/-- The billing side of an engine, if it has one, is an order service. -/
def BilledByService (e : Engine σ) : Prop :=
  ∀ client, e.billing = some client → ∃ service : OrderService σ, client = service.client

/-- A fetch is one request. -/
theorem fetch_keepsTo (e : Engine σ) (identifier : String) :
    (e.fetch identifier).KeepsTo deadline := by
  rw [fetch_eq]
  exact (Run.KeepsTo.monadLift _).bind fun _ =>
    (Run.KeepsTo.send _ _).attempt.bind fun _ => .monadLift _

/-- A look is one request. -/
theorem look_keepsTo (e : Engine σ) (identifier : String) :
    (e.look identifier).KeepsTo deadline := by
  rw [look_eq]
  exact (Run.KeepsTo.monadLift _).bind fun _ =>
    (Run.KeepsTo.send _ _).attempt.bind fun _ => .monadLift _

/-- Reading a state is one request. -/
theorem read_keepsTo (e : Engine σ) (id : ResourceId) (identifier : String) :
    (e.read id identifier).KeepsTo deadline := by
  rw [read_eq]
  exact (Run.KeepsTo.monadLift _).bind fun _ =>
    (Run.KeepsTo.send _ _).attempt.bind fun _ => .monadLift _

/-- The poll that follows a step keeps to the deadline that it is given. -/
theorem pollIfAny_keepsTo (e : Engine σ) (spec : Option PollSpec) (identifier : String) :
    (e.pollIfAny spec identifier deadline).KeepsTo deadline := by
  -- Without a poll no time passes.
  cases spec with
  | none => exact .pure _
  | some spec =>
    -- The deadline of the caller is one of the two that the poll takes the earlier of.
    have polled : (spec.run (e.look identifier) (some deadline)).KeepsTo deadline := by
      intro env now
      refine PollSpec.run_keepsTo (e.look_keepsTo identifier) _ ?_ env
      simp only [PollSpec.deadline]
      omega
    exact (polled.bind fun _ => .monadLift _).bind fun _ => .pure _

/-- Stages keep to the deadline that they are given, however many there are. -/
theorem carryOut_keepsTo (e : Engine σ) (identifier : String) (stages : List Stage) :
    (e.carryOut identifier deadline stages).KeepsTo deadline := by
  -- Every stage is a request and a poll, and all polls are given the same deadline.
  induction stages with
  | nil => exact .pure _
  | cons stage rest ih =>
    rw [carryOut]
    have performed : (e.perform identifier deadline stage).KeepsTo deadline :=
      (Run.KeepsTo.monadLift _).bind fun _ =>
        (Run.KeepsTo.send _ _).bind fun _ => e.pollIfAny_keepsTo stage.poll identifier
    exact performed.bind fun _ => ih

/-- An update keeps to the deadline of its timeout. -/
theorem update_keepsTo (e : Engine σ) (id : ResourceId) (identifier : String) (current : State)
    (wanted : Resource) (env : σ) (now : Nat) :
    (e.update id identifier current wanted env now).KeepsTo
      (Instant.after now e.timeouts.update) now := by
  -- The plan takes no time, the stages share the deadline, and the read is one request.
  rw [update_eq, Run.now_bind]
  exact ((Run.KeepsTo.monadLift _).bind fun changed => (e.carryOut_keepsTo identifier _).bind
    fun _ => (e.read_keepsTo id identifier).bind fun _ => .pure _) env now

/-- A removal is one request, or the billing call that takes a subscription back. -/
theorem remove_keepsTo (served : e.BilledByService) (identifier : String) (isPrepaid : Bool) :
    (e.remove identifier isPrepaid).KeepsTo deadline := by
  unfold remove
  split
  · split
    · rename_i client billed
      obtain ⟨service, rfl⟩ := served client billed
      -- This call is not given any time, because it does not wait.
      intro env now
      exact Run.keepsTo_billed (service.unsubscribe_keepsTo [identifier] env now)
        fun timeout given => nomatch given
    · exact .fail _
  · exact (Run.KeepsTo.monadLift _).bind fun _ => (Run.KeepsTo.send _ _).bind fun _ => .pure _

/-- What a failed removal means is found out by at most one request. -/
theorem settle_keepsTo (e : Engine σ) (identifier : String) (isPrepaid : Bool)
    (failure : Failure) : (e.settle identifier isPrepaid failure).KeepsTo deadline := by
  -- Only the failure to take back a subscription is followed by a fetch.
  unfold settle
  split
  · exact .pure _
  · split
    · refine (e.fetch_keepsTo identifier).bind fun found => ?_
      cases found with
      | some document => exact .fail _
      | none => exact .pure _
    · exact .fail _

/-- A deletion keeps to the deadline of its timeout. -/
theorem delete_keepsTo (served : e.BilledByService) (identifier : String) (current : State)
    (env : σ) (now : Nat) :
    (e.delete identifier current env now).KeepsTo (Instant.after now e.timeouts.delete) now := by
  -- Whoever pays when, the removal is followed by the poll for the absence or by a second look.
  have removes (isPrepaid : Bool) : (e.removeAndWait identifier isPrepaid
      (Instant.after now e.timeouts.delete)).KeepsTo (Instant.after now e.timeouts.delete) := by
    refine (remove_keepsTo served identifier isPrepaid).attempt.bind fun removed => ?_
    cases removed with
    | ok _ => exact e.pollIfAny_keepsTo _ identifier
    | error failure => exact e.settle_keepsTo identifier isPrepaid failure
  rw [delete, Run.now_bind]
  split
  · refine Run.keepsTo_bind (e.fetch_keepsTo identifier env now) fun found => ?_
    cases found with
    | some document => exact removes true
    | none => exact .pure _
  · exact removes false env now

/-- A lookup of an order is at most one request. -/
theorem orderLookup_keepsTo (e : Engine σ) (lookup : Option (Request × String)) :
    (e.orderLookup lookup).KeepsTo deadline := by
  -- An order that the creation named is at hand, and without a lookup there is none.
  intro env now
  unfold orderLookup
  split
  · exact .instant _ _
  · cases lookup with
    | none => exact .instant _ _
    | some sent =>
      have sends : (do
          let response ← e.remote.send sent.1
          response.body.readText? sent.2 : Run σ (Option String)).KeepsTo deadline :=
        (Run.KeepsTo.send _ _).bind fun _ => .monadLift _
      exact (sends env.2 now).of_eq rfl rfl

/-- Waiting for an order keeps to the deadline: the search, and then each billing call with the
time that is left. -/
theorem awaitOrder_keepsTo (served : e.BilledByService) (resource : Resource) (answer : Document)
    (created : Option String) :
    (e.awaitOrder resource answer created deadline).KeepsTo deadline := by
  -- Without a billing side or terms the wait fails at once.
  cases billed : e.billing with
  | none =>
    rw [awaitOrder, billed]
    exact .fail _
  | some client =>
    cases priced : e.blueprint.billing with
    | none =>
      rw [awaitOrder, billed, priced]
      exact .fail _
    | some terms =>
      obtain ⟨service, rfl⟩ := served client billed
      rw [awaitOrder_eq billed priced]
      refine (Run.KeepsTo.monadLift _).bind fun lookup => (Run.KeepsTo.monadLift _).bind
        fun named => ?_
      refine ((Order.awaitOrder_keepsTo _ (e.orderLookup_keepsTo lookup)).withVariable named).bind
        fun record => ?_
      -- Both billing calls look at the clock before they are given what is left.
      refine (Run.KeepsTo.now_bind fun env now => ?_).bind fun _ => ?_
      · refine Run.keepsTo_billed (service.waitOrder_keepsTo record.order env now) ?_
        rintro timeout ⟨⟩
        rfl
      · cases created with
        | some identifier => exact .pure _
        | none =>
          refine Run.KeepsTo.now_bind fun env now => ?_
          refine Run.keepsTo_billed (service.orderResource_keepsTo record.order env now) ?_
          rintro timeout ⟨⟩
          rfl

/-- Making an object keeps to the deadline that it is given. -/
theorem make_keepsTo (served : e.BilledByService) (resource : Resource) :
    (e.make resource deadline).KeepsTo deadline := by
  -- Behind the request, only an order has to be waited for.
  refine ((Run.KeepsTo.monadLift _).bind fun _ => .send _ _).bind fun response => ?_
  refine (Run.KeepsTo.monadLift _).bind fun created => ?_
  split
  · exact awaitOrder_keepsTo served resource response.body created
  · cases created with
    | some identifier => exact .pure _
    | none => exact .fail _

/-- Waiting for a new object keeps to the deadline, also when the object is removed after that. -/
theorem awaitReady_keepsTo (served : e.BilledByService) (resource : Resource)
    (identifier : String) : (e.awaitReady resource identifier deadline).KeepsTo deadline := by
  -- A compensation is one removal, which is not polled for.
  refine (e.pollIfAny_keepsTo _ identifier).attempt.bind fun polled => ?_
  cases polled with
  | ok _ => exact .pure _
  | error failure =>
    have compensates : (e.compensate resource identifier).KeepsTo deadline := by
      unfold compensate
      split
      · exact .pure _
      · exact (remove_keepsTo served identifier _).attempt.bind fun _ => .pure _
    exact compensates.bind fun _ => .fail _

/-- Setting the tags of a new object takes requests alone. -/
theorem tagNew_keepsTo (e : Engine σ) (resource : Resource) (identifier : String) :
    (e.tagNew resource identifier).KeepsTo deadline := by
  -- Tags are set by stages that have no polls.
  unfold tagNew
  split
  · rw [applyTags_eq e _ identifier none _ deadline]
    exact e.carryOut_keepsTo identifier _
  · exact .pure _

/-- A new object is found by a single request. -/
theorem find_keepsTo (e : Engine σ) (resource : Resource) (identifier : String) :
    (e.find resource identifier).KeepsTo deadline := by
  -- Whatever was read is judged at once.
  refine (e.read_keepsTo resource.id identifier).bind fun state => ?_
  split
  · exact .pure _
  · exact .fail _

/-- A creation keeps to the deadline of its timeout. -/
theorem create_keepsTo (served : e.BilledByService) (wanted : Resource) (env : σ) (now : Nat) :
    (e.create wanted env now).KeepsTo (Instant.after now e.timeouts.create) now := by
  -- Phase by phase, all with one deadline.
  rw [create_eq, Run.now_bind]
  exact ((make_keepsTo served _).bind fun identifier =>
    (awaitReady_keepsTo served _ identifier).bind fun _ =>
      (e.tagNew_keepsTo _ identifier).bind fun _ => e.find_keepsTo _ identifier) env now

end Engine

/-- What bounds an operation that has a timeout: it takes no longer than that, thirty years at most,
besides the time that remote services take, and all its events fit the deadline. -/
structure Outcome.Bounded {α : Type} (o : Outcome σ α) (start timeout : Nat) : Prop where
  elapsed : o.elapsed ≤ min timeout Duration.horizon + Event.remoteTime o.events
  fits : ∀ event ∈ Event.record o.events, event.Fits (start + min timeout Duration.horizon)

/-- A run that keeps to the deadline of a timeout is bounded by it. -/
theorem Outcome.KeepsTo.bounded {α : Type} {o : Outcome σ α} {start timeout : Nat}
    (keeps : o.KeepsTo (Instant.after start timeout) start) : o.Bounded start timeout where
  -- The timeout counts up to the horizon.
  elapsed := by
    have inTime := keeps.inTime
    simp only [Instant.after] at inTime
    omega
  fits := keeps.fits

/--
Each operation is bounded by its own timeout, counted once from its start.

No pause leads beyond that deadline, also not inside billing calls, and every billing call that
waits is given exactly the time that is left until then.
-/
theorem Engine.operations_bounded {e : Engine σ} (served : e.BilledByService) (env : σ)
    (now : Nat) :
    (∀ wanted, (e.create wanted env now).Bounded now e.timeouts.create) ∧
      (∀ id identifier current wanted,
        (e.update id identifier current wanted env now).Bounded now e.timeouts.update) ∧
      ∀ identifier current, (e.delete identifier current env now).Bounded now e.timeouts.delete :=
  ⟨fun wanted => (create_keepsTo served wanted env now).bounded,
    fun id identifier current wanted =>
      (e.update_keepsTo id identifier current wanted env now).bounded,
    fun identifier current => (delete_keepsTo served identifier current env now).bounded⟩

/-- A prepaid volume whose order is never completed is given up at its deadline, except for the last
look that began by then. -/
theorem Engine.operations_bounded_order :
    let ordered : Document := .object
      [("order_id", .string "CS1"), ("order_info", .object [("status", .string "6")])]
    let remote : Remote Unit := ⟨fun _ env => ⟨.ok ⟨200, ordered⟩, Duration.ofSeconds 1, env⟩⟩
    let e : Engine Unit :=
      { kind := Catalogue.Volume.kind
        remote
        billing := some (OrderService.client { remote })
        params := Dict.empty.insert "project_id" "p1"
        timeouts := { create := Duration.ofSeconds 15 } }
    let wanted : Resource := ⟨⟨"hcs_evs_volume", "data"⟩, Dict.ofList
      [ ("availability_zone", .string "az1"), ("volume_type", .string "SSD"), ("size", .int 40)
      , ("charging_mode", .string prepaid), ("period_unit", .string "month"), ("period", .int 1) ]⟩
    let o := e.create wanted () 0
    e.BilledByService ∧ o.elapsed = Duration.ofSeconds 16 ∧
      Event.billingCalls o.events = [.waitOrder "CS1" (Duration.ofSeconds 14)] ∧
      o.Bounded 0 (Duration.ofSeconds 15) := by
  -- The lookup takes a second of the fifteen, and the last look another one beyond them.
  intro ordered remote e wanted o
  have served : e.BilledByService := by
    rintro client ⟨⟩
    exact ⟨_, rfl⟩
  have span : o.elapsed = Duration.ofSeconds 16 := by decide +kernel
  have given : Event.billingCalls o.events = [.waitOrder "CS1" (Duration.ofSeconds 14)] := by
    decide +kernel
  exact ⟨served, span, given, (operations_bounded served () 0).1 wanted⟩

end Provision
