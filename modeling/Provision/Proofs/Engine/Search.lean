import Provision.Catalogue.Volume
import Provision.Proofs.Clock
import Provision.Proofs.Engine.Order
import Provision.Proofs.Order
import Provision.Script

/-! The order of a prepaid object is looked up only if the answer to its creation does not name it,
and only an order that was found is completed. -/

namespace Provision.Engine

variable {σ : Type} {e : Engine σ} {terms : BillingTerms} {created : Option String}

/-- An order that the answer to a creation names is found without any request. -/
theorem Seeks.of_named {order label : String} {deadline : Nat}
    {answer : Except Failure OrderRecord} {events : List Event}
    (seeks : e.Seeks terms created (some order) label deadline answer events)
    (named : order ≠ "") : events = [] := by
  obtain ⟨lookup, env, now, -, -, rfl⟩ := seeks.sought
  -- The first lookup takes the name that there is, and none comes before it.
  obtain ⟨n, searches, -⟩ :=
    Order.awaitOrder_searches label (e.orderLookup lookup) deadline (some order, env) now
  exact (searches.of_found (k := 0) (fun m below => absurd below (Nat.not_lt_zero m)) rfl
    named).2.2

/-- A request that is sent while an order is sought looks that order up, which the answer to the
creation does not name. -/
theorem Seeks.request {answer : Document} {named : Option String} {label : String}
    {deadline start finish : Nat} {result : Except Failure OrderRecord} {events : List Event}
    {request : Request} {reply : Except Failure Response}
    (seeks : e.Seeks terms created named label deadline result events)
    (read : answer.readText? terms.orderPath = .ok named)
    (sent : .call start finish request reply ∈ events) :
    (∃ path, e.lookupRequest terms created = .ok (some (request, path))) ∧
      (answer.readText? terms.orderPath = .ok none ∨
        answer.readText? terms.orderPath = .ok (some "")) := by
  -- All events of a search are lookups or pauses.
  constructor
  · rcases seeks.looks _ sent with ⟨_, _, _, path, _, formed, same⟩ | ⟨_, _, same⟩
    · cases same
      exact ⟨path, formed⟩
    · cases same
  · -- A lookup is sent only when there is no name to begin with.
    cases named with
    | none => exact .inl read
    | some order =>
      by_cases empty : order = ""
      · exact .inr (empty ▸ read)
      · -- With a name to begin with, nothing would have been sent.
        rw [seeks.of_named empty] at sent
        cases sent

/-- To come from an order to an identifier no request is sent. -/
theorem Produces.no_request {order : String} {deadline : Nat} {answer : Except Failure String}
    {events : List Event} (produces : Produces order deadline created answer events) :
    ∀ event ∈ events, ∀ start finish request reply, event ≠ .call start finish request reply := by
  -- There is a billing call at most.
  cases produces with
  | known => simp
  | asked bills => exact bills.no_request

/-- So is a request that is sent at any time while the order is waited for. -/
theorem Orders.request {resource : Resource} {answer : Document} {deadline start finish : Nat}
    {result : Except Failure String} {events : List Event} {request : Request}
    {reply : Except Failure Response}
    (orders : e.Orders terms resource answer created deadline result events)
    (sent : .call start finish request reply ∈ events) :
    (∃ path, e.lookupRequest terms created = .ok (some (request, path))) ∧
      (answer.readText? terms.orderPath = .ok none ∨
        answer.readText? terms.orderPath = .ok (some "")) := by
  -- Requests are sent by the search alone.
  cases orders with
  | unbilled | unformed | unread => cases sent
  | placed _ read goes =>
    cases goes with
    | stopped seeks => exact seeks.request read sent
    | passed seeks rest =>
      rcases List.mem_append.mp sent with before | after
      · exact seeks.request read before
      · -- Behind the search only the billing side is called.
        have calls := rest.forall_mem (fun _ _ bills => bills.no_request)
          fun _ _ _ produces => produces.no_request
        exact absurd rfl (calls _ after start finish request reply)

/-- The answer to a lookup of an order, which is there from the second one on. -/
def orderAnswer (asked : Nat) : Document :=
  if asked = 0 then .object [] else .object [("order_id", .string "CS1")]

/-- The terms under which an order can be looked up. -/
def lateTerms : BillingTerms where
  orderPath := "order_id"
  lookup := some ⟨{ method := .get, path := "v2/orders" }, "order_id"⟩

/-- Volumes under these terms, at a remote side that counts the lookups. -/
def lateOrders : Engine Nat where
  kind :=
    { Catalogue.Volume.kind with
      blueprint := { Catalogue.Volume.blueprint with billing := some lateTerms } }
  remote := ⟨fun _ asked => ⟨.ok ⟨200, orderAnswer asked⟩, Duration.ofMillis 20, asked + 1⟩⟩
  billing := some (CannedBilling.client {})

/-- The request that looks an order up. -/
def orderRequest : Request := { method := .get, path := "v2/orders" }

/-- The lookups of a search at that remote side. -/
def lateLookup : Run Nat (Option String) :=
  (lateOrders.orderLookup (some (orderRequest, "order_id"))).withVariable none

/-- A lookup is one request, and finds what its answer names. -/
theorem lateLookup_apply (asked now : Nat) :
    lateLookup asked now =
      ⟨(orderAnswer asked).readText? "order_id", asked + 1, Duration.ofMillis 20,
        [.call now (now + Duration.ofMillis 20) orderRequest (.ok ⟨200, orderAnswer asked⟩)]⟩ := by
  -- Reading the answer takes neither time nor events.
  have read := Run.bind_monadLift (lateOrders.remote.send orderRequest)
    (fun response => response.body.readText? "order_id") asked now
  simp only [lateLookup, Run.withVariable, orderLookup, read]
  rfl

/-- The first of them misses, and the second one finds the order after the pause between them. -/
theorem lateLookup_lookups {limit : Nat} (time : Duration.ofMillis 520 ≤ limit) :
    Order.lookups lateLookup limit 0 0 0 =
        ⟨0, .ok none, 1, Duration.ofMillis 20,
          [.call 0 (Duration.ofMillis 20) orderRequest (.ok ⟨200, orderAnswer 0⟩)]⟩ ∧
      Order.lookups lateLookup limit 0 0 1 =
        ⟨Duration.ofMillis 520, .ok (some "CS1"), 2, Duration.ofMillis 20,
          [.call (Duration.ofMillis 520) (Duration.ofMillis 540) orderRequest
            (.ok ⟨200, orderAnswer 1⟩)]⟩ := by
  -- What the two answers name, and when the lookups end, is computed.
  have absent : (orderAnswer 0).readText? "order_id" = .ok none := by decide +kernel
  have named : (orderAnswer 1).readText? "order_id" = .ok (some "CS1") := by decide +kernel
  have paused : Duration.ofMillis 20 + Duration.ofMillis 500 = Duration.ofMillis 520 := by decide
  have ended : Duration.ofMillis 520 + Duration.ofMillis 20 = Duration.ofMillis 540 := by decide
  have first : Order.lookups lateLookup limit 0 0 0 = ⟨0, .ok none, 1, Duration.ofMillis 20,
      [.call 0 (Duration.ofMillis 20) orderRequest (.ok ⟨200, orderAnswer 0⟩)]⟩ := by
    rw [Order.lookups, lateLookup_apply, absent, Nat.zero_add, Nat.zero_add]
  refine ⟨first, ?_⟩
  rw [Order.lookups, first]
  simp only [Order.Lookup.ended, Nat.zero_add, paused, Nat.min_eq_left time, lateLookup_apply,
    named, ended]

/--
The order of something prepaid is looked up until a lookup finds a name, and is then completed once.

The first lookup is made at once, and any further one half a second after the miss before it, or
when the time is up, if that is earlier. A lookup that fails ends the search with its failure, and
so does a miss that ends when the time is up, with no failure of a poll but one of the search. The
order that was found is completed with the time that is left, and the record says that it is
complete only if that went well. An order is only looked up if the answer to the creation names
none.
-/
theorem order_sought_and_completed (label : String) (lookup : Run σ (Option String))
    (client : BillingClient σ) (deadline : Nat) (env : σ) (start : Nat) (e : Engine σ)
    (resource : Resource) (answer : Document) (created : Option String) :
    let search := Order.awaitOrder label lookup deadline env start
    let limit := min deadline (start + Duration.horizon)
    let made := Order.lookups lookup limit env start
    let o := Order.await client label lookup deadline env start
    (∃ n, Order.Searches label start limit made n search ∧
      (Order.awaitOrder label lookup.counted deadline (0, env) start).env.1 = n + 1 ∧
      ∀ failure, search.answer = .error failure → (made n).outcome.answer = .error failure ∨
        ∃ elapsed, failure = .orderNeverAppeared label elapsed ∧
          min (deadline - start) Duration.horizon ≤ elapsed) ∧
    (∀ failure, search.answer = .error failure →
      o.answer = .error failure ∧ o.events = search.events) ∧
    (∀ record, search.answer = .ok record →
      let later := start + search.elapsed
      let left := deadline - later
      let call := client.waitOrder record.order left search.env later
      o.answer = call.answer.map (fun _ => ⟨record.order, true⟩) ∧
        ∃ failure, o.events =
          search.events ++ [.billing later (.waitOrder record.order left) failure call.events]) ∧
    ∀ terms, e.blueprint.billing = some terms → ∀ begun ended request reply,
      .call begun ended request reply ∈
        (e.awaitOrder resource answer created deadline env start).events →
      (∃ path, e.lookupRequest terms created = .ok (some (request, path))) ∧
        (answer.readText? terms.orderPath = .ok none ∨
          answer.readText? terms.orderPath = .ok (some "")) := by
  -- Each part is about one half of the wait, and the last one about its requests.
  intro search limit made o
  obtain ⟨n, searches, counted⟩ := Order.awaitOrder_searches label lookup deadline env start
  obtain ⟨unfound, found⟩ := Order.await_apply client label lookup deadline env start
  refine ⟨⟨n, searches, counted, fun failure failed => searches.failure failed⟩, unfound, found, ?_⟩
  intro terms priced begun ended request reply sent
  exact (awaitOrder_obeys priced resource answer created deadline env start).request sent

/-- An order that appears with the second lookup is completed in the time that the lookups and the
pause between them leave, and no request but the lookup is sent for it. -/
theorem order_completed_after_pause :
    let client : BillingClient Nat := CannedBilling.client {}
    let deadline := Duration.ofMinutes 30
    let o := Order.await client "hcs_evs_volume.data" lateLookup deadline 0 0
    o.answer = .ok ⟨"CS1", true⟩ ∧
      (∃ failure, o.events =
        [ .call 0 (Duration.ofMillis 20) orderRequest (.ok ⟨200, orderAnswer 0⟩)
        , .sleep (Duration.ofMillis 20) (Duration.ofMillis 520)
        , .call (Duration.ofMillis 520) (Duration.ofMillis 540) orderRequest
            (.ok ⟨200, orderAnswer 1⟩)
        , .billing (Duration.ofMillis 540)
            (.waitOrder "CS1" (deadline - Duration.ofMillis 540)) failure [] ]) ∧
      ∃ begun ended request reply,
        .call begun ended request reply ∈
          (lateOrders.awaitOrder ⟨⟨"hcs_evs_volume", "data"⟩, Dict.empty⟩ (.object [])
            (some "v-1") deadline 0 0).events ∧
        ∃ path, lateOrders.lookupRequest lateTerms (some "v-1") = .ok (some (request, path)) := by
  -- The theorem gives the course of the search, which is then followed to its second lookup.
  intro client deadline o
  obtain ⟨⟨n, searches, -⟩, -, completes, asks⟩ :=
    order_sought_and_completed "hcs_evs_volume.data" lateLookup client deadline 0 0 lateOrders
      ⟨⟨"hcs_evs_volume", "data"⟩, Dict.empty⟩ (.object []) (some "v-1")
  -- The first lookup misses in time, and the second one finds the order.
  have time : Duration.ofMillis 520 ≤ min deadline (0 + Duration.horizon) := by decide
  obtain ⟨first, second⟩ := lateLookup_lookups time
  have missed : ∀ m < 1, (Order.lookups lateLookup (min deadline (0 + Duration.horizon)) 0 0
      m).Misses ∧ (Order.lookups lateLookup (min deadline (0 + Duration.horizon)) 0 0 m).ended <
        min deadline (0 + Duration.horizon) := by
    intro m below
    obtain rfl : m = 0 := by omega
    rw [first]
    exact ⟨.inl rfl, by decide⟩
  -- So this is how the search ends, and completion starts at that instant.
  obtain ⟨found, ended, events⟩ := searches.of_found missed (congrArg (·.outcome.answer) second)
    (by decide)
  obtain ⟨answered, failure, done⟩ := completes _ found
  have lasted : 0 + (Order.awaitOrder "hcs_evs_volume.data" lateLookup deadline 0 0).elapsed =
      Duration.ofMillis 540 := by
    rw [ended, second]
    decide
  refine ⟨answered, ⟨failure, ?_⟩, ?_⟩
  · rw [lasted, events, Order.done, List.range_one, List.flatMap_singleton, first, second] at done
    exact done
  · -- The answer to the creation names no order, so there is an event of the remote side.
    have sends : (lateOrders.awaitOrder ⟨⟨"hcs_evs_volume", "data"⟩, Dict.empty⟩ (.object [])
        (some "v-1") deadline 0 0).events.any (·.remoteSpan != 0) = true := by decide +kernel
    obtain ⟨event, member, sent⟩ := List.any_eq_true.mp sends
    cases event with
    | call begun ended request reply =>
      exact ⟨begun, ended, request, reply, member, (asks _ rfl _ _ _ _ member).1⟩
    | sleep => cases sent
    | billing => cases sent

end Provision.Engine
