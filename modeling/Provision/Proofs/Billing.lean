import Provision.Billing
import Provision.Proofs.Path.Dotted
import Provision.Proofs.Poll.Single
import Provision.Proofs.Run

/-! The resource of an order is the first one that its listings name, and they are asked for until
one does or the time is up. -/

namespace Provision

namespace Path

/-- A null in the end has no text, so the text that an expression selects is that of what its stages
lead to. -/
theorem extractText_of_parse {expression source : String} {stages : List (List Segment)}
    (parsed : parse expression = .ok ⟨source, stages⟩) (d : Document) :
    extractText d expression = .ok ((pipe stages d).bind Document.scalarText?) := by
  -- A value of null is dropped on the one side and has no text on the other.
  simp only [extractText, parsed, Bind.bind, Except.bind, Pure.pure, Except.pure, evaluate]
  split
  · rename_i null
    rw [null]
    rfl
  · rfl

/-- The item at the first position is the first one. -/
theorem itemAt?_zero {α : Type} (items : List α) : itemAt? items 0 = items.head? := by
  -- Position zero is not counted from the end.
  rw [List.head?_eq_getElem?]
  rfl

end Path

namespace OrderService

variable {σ : Type}

/-- The entries of a listing; without an array of them there are none. -/
def entries (listing : Document) : List Document :=
  ((listing.get? "data").bind Document.array?).getD []

/-- The resource of an entry, unless it is left out or null. -/
def resource? (entry : Document) : Option Document :=
  match entry.get? "resource_id" with
  | some .null => none
  | found => found

/-- Whether an entry is flagged as the main one. -/
def isMain (entry : Document) : Bool :=
  match entry.get? "is_main_resource" with
  | some (.bool flag) => flag
  | _ => false

/-- The resource of the first entry flagged as main among those that have one. -/
def mainResource? (listing : Document) : Option Document :=
  (entries listing).findSome? fun entry => if isMain entry then resource? entry else none

/-- The resource of the first entry. -/
def firstResource? (listing : Document) : Option Document := (entries listing).head?.bind resource?

/-- The text of the main resource if that is a scalar, and else the text of the first one. -/
def named? (listing : Document) : Option String :=
  ((mainResource? listing).bind Document.scalarText?).or
    ((firstResource? listing).bind Document.scalarText?)

open Provision.Path

/-- The path of the main resource selects from the entries by the flag, and from what is selected
the first. -/
theorem parse_mainResourcePath : parse mainResourcePath = .ok ⟨mainResourcePath,
    [ [.field "data", .filter "is_main_resource" false (.bool true), .field "resource_id"]
    , [.index 0] ]⟩ := by
  -- The text is derived from its names, its literal and its position, outwards to the stages.
  have nothing : Grammar.Spaces [] := by simp [Grammar.Spaces]
  have data : Grammar.Name _ "data" := IsName.named (by decide)
  have flag : Grammar.Name _ "is_main_resource" := IsName.named (by decide)
  have resource : Grammar.Name _ "resource_id" := IsName.named (by decide)
  have zero : Grammar.Index _ 0 := .plain (@Grammar.Decimal.single 0 (by decide)) (by decide)
  have yes : Grammar.Literal ('\x60' :: (['t', 'r', 'u', 'e'] ++ ['\x60'])) (.bool true) :=
    .json (by decide) rfl
  have filter : Grammar.Filter _ (.filter "is_main_resource" false (.bool true)) :=
    .mk nothing flag nothing .same nothing yes nothing
  have selects : Grammar.Steps _
      [.filter "is_main_resource" false (.bool true), .field "resource_id"] :=
    .cons (.bracket (.mk (.filter filter))) (.cons (.field resource) .nil)
  have first : Grammar.Stage _ [.index 0] := .mk nothing (.bracket (.mk (.index zero))) .nil
  refine parse_of_derived ?_
    (.pipe (.mk nothing (.field data) selects) nothing (.last first nothing))
  decide

/-- The path of the first resource leads to the first entry. -/
theorem parse_firstResourcePath : parse firstResourcePath = .ok ⟨firstResourcePath,
    [[.field "data", .index 0, .field "resource_id"]]⟩ := by
  -- Again from the names and the position outwards.
  have nothing : Grammar.Spaces [] := by simp [Grammar.Spaces]
  have data : Grammar.Name _ "data" := IsName.named (by decide)
  have resource : Grammar.Name _ "resource_id" := IsName.named (by decide)
  have zero : Grammar.Index _ 0 := .plain (@Grammar.Decimal.single 0 (by decide)) (by decide)
  have steps : Grammar.Steps _ [.index 0, .field "resource_id"] :=
    .cons (.bracket (.mk (.index zero))) (.cons (.field resource) .nil)
  refine parse_of_derived ?_ (.last (.mk nothing (.field data) steps) nothing)
  decide

/-- The test of the filter is the flag. -/
theorem holdsField_isMain (entry : Document) :
    (holdsField "is_main_resource" (.bool true) entry != false) = isMain entry := by
  -- Only a flag that is true passes, and anything else compares as different.
  unfold holdsField isMain
  cases entry.get? "is_main_resource" with
  | none => rfl
  | some value =>
    cases value with
    | bool flag => cases flag <;> rfl
    | null | number | string | array | object => rfl

/-- A step to the resource of an entry finds it unless it is left out or null. -/
theorem walk_resource : walk [.field "resource_id"] = resource? := by
  -- A null on the way ends the walk, as does a field that is missing.
  funext entry
  rw [walk, resource?]
  split <;> simp_all [walk]

/-- The path of the main resource selects it. -/
theorem pipe_mainResource (listing : Document) :
    pipe [ [.field "data", .filter "is_main_resource" false (.bool true), .field "resource_id"]
         , [.index 0] ] listing = mainResource? listing := by
  -- Entries are selected from an array only, and nothing else is one.
  rw [pipe, walk, mainResource?, entries]
  cases listing.get? "data" with
  | none => rfl
  | some data =>
    cases data with
    | array items =>
      -- The first of what is selected comes from the first entry that passes.
      have first (selected : List Document) :
          pipe [[.index 0]] (.array selected) = selected.head? := by
        simp [pipe, walk, itemAt?_zero]
      dsimp only [Document.array?, Option.bind_some, Option.getD_some]
      rw [walk, walk_resource, Option.bind_some, first, List.filterMap_filter,
        List.head?_filterMap]
      simp only [holdsField_isMain]
    | null | bool | number | string | object => rfl

/-- The path of the first resource selects it. -/
theorem pipe_firstResource (listing : Document) :
    pipe [[.field "data", .index 0, .field "resource_id"]] listing = firstResource? listing := by
  -- Only an array has a first entry.
  rw [pipe, walk, firstResource?, entries]
  cases listing.get? "data" with
  | none => rfl
  | some data =>
    cases data with
    | array items =>
      have ends : pipe [] = some := funext fun _ => rfl
      dsimp only [Document.array?, Option.bind_some, Option.getD_some]
      rw [walk, walk_resource, itemAt?_zero, ends, Option.bind_fun_some]
    | null | bool | number | string | object => rfl

/-- What a listing names is never a malformed path. -/
theorem listedResource?_eq (listing : Document) :
    listedResource? listing = .ok (named? listing) := by
  -- Both paths are well formed, so each reads what its pipe selects.
  rw [listedResource?, Document.readText?, Document.readText?,
    extractText_of_parse parse_mainResourcePath, extractText_of_parse parse_firstResourcePath,
    pipe_mainResource, pipe_firstResource, named?]
  cases (mainResource? listing).bind Document.scalarText? <;> rfl

/-- The request for the resources of an order. -/
def listingRequest (order : String) : Request where
  method := .get
  path := "v2/orders/suscriptions/resources"
  query := [("order_id", order)]

/-- A listing: the instant at which it was asked for, and the reply to that. -/
structure Listing (σ : Type) where
  asked : Nat
  reply : Reply σ

namespace Listing

/-- The instant at which the reply came. -/
def came (listing : Listing σ) : Nat := listing.asked + listing.reply.delay

/-- The listing names no resource, or one with an empty name. -/
def NamesNone (listing : Listing σ) : Prop :=
  ∃ response, listing.reply.answer = .ok response ∧
    (named? response.body = none ∨ named? response.body = some "")

/-- The call by which the listing was asked for. -/
def call (order : String) (listing : Listing σ) : Event :=
  .call listing.asked listing.came (listingRequest order) listing.reply.answer

end Listing

/-- The listings of an order one after the other, for as long as they name no resource: each is
asked for an interval after the one before, but not after the limit. -/
def listings (service : OrderService σ) (order : String) (limit : Nat) (env : σ) (start : Nat) :
    Nat → Listing σ
  | 0 => ⟨start, service.remote.reply (listingRequest order) env⟩
  | n + 1 =>
    let before := listings service order limit env start n
    ⟨min (before.came + service.interval) limit,
      service.remote.reply (listingRequest order) before.reply.env⟩

/-- All that happens up to a listing: the calls, and the pauses between them. -/
def asked (order : String) (shown : Nat → Listing σ) (n : Nat) : List Event :=
  (List.range n).flatMap (fun i =>
    [(shown i).call order, .sleep (shown i).came (shown (i + 1)).asked]) ++ [(shown n).call order]

/-- What is answered after the last listing: the resource that this names, or its failure, or that
the time is up. -/
inductive Concludes (order : String) (start limit : Nat) (last : Listing σ) :
    Except Failure String → Prop where
  | named {response : Response} {resource : String} : last.reply.answer = .ok response →
      named? response.body = some resource → resource ≠ "" →
      Concludes order start limit last (.ok resource)
  | failed {failure : Failure} : last.reply.answer = .error failure →
      Concludes order start limit last (.error failure)
  | late : last.NamesNone → limit ≤ last.came →
      Concludes order start limit last
        (.error (.pollTimeout s!"resources of order {order}" (some "PENDING") (last.came - start)))

/-- A wait that ends with a listing: all earlier ones named nothing in time, and the last one
decides. -/
structure Awaits (order : String) (start limit : Nat) (shown : Nat → Listing σ) (n : Nat)
    (o : Outcome σ String) : Prop where
  passed : ∀ m < n, (shown m).NamesNone ∧ (shown m).came < limit
  answer : Concludes order start limit (shown n) o.answer
  env : o.env = (shown n).reply.env
  elapsed : start + o.elapsed = (shown n).came
  events : o.events = asked order shown n

/-- How the poll for a resource sees what a listing names. -/
def observe : Option String → Observation String
  | some resource => if resource.isEmpty then .found (some "PENDING") "" else
      .found (some "READY") resource
  | none => .found (some "PENDING") ""

/-- A listing as the poll for a resource sees it. -/
def Listing.tick (order : String) (listing : Listing σ) : Tick σ String :=
  ⟨listing.asked, listing.reply.answer.map fun response => observe (named? response.body),
    listing.reply.env, listing.reply.delay, [listing.call order]⟩

/-- A look at the resources of an order asks for one listing. -/
theorem lookAtResources_apply (service : OrderService σ) (order : String) (env : σ) (now : Nat) :
    let listing : Listing σ := ⟨now, service.remote.reply (listingRequest order) env⟩
    service.lookAtResources order env now = (listing.tick order).outcome := by
  intro listing
  -- Only the request can fail, and what it is answered with decides what is seen.
  have looks : service.lookAtResources order = (do
      let response ← service.remote.send (listingRequest order)
      return observe (named? response.body)) := by
    unfold lookAtResources
    refine congrArg (_ >>= ·) (funext fun response => ?_)
    rw [listedResource?_eq, Run.monadLift_ok_bind]
    cases named? response.body with
    | none => rfl
    | some resource => simp only [observe]; split <;> rfl
  rw [looks, Run.bind_map]
  rfl

/-- The course of that poll is the listings. -/
theorem course_eq (service : OrderService σ) (order : String) (timeout limit : Nat) (env : σ)
    (start n : Nat) :
    (service.production timeout).course (service.lookAtResources order) limit env start n =
      (service.listings order limit env start n).tick order := by
  -- Each look starts from the instant and the environment that the one before has left.
  induction n with
  | zero => rw [PollSpec.course, lookAtResources_apply]; rfl
  | succ n ih =>
    rw [PollSpec.course, ih, lookAtResources_apply]
    rfl

/-- The poll for a resource is for a single state. -/
theorem production_awaitsOnly (service : OrderService σ) (timeout : Nat) :
    (service.production timeout).AwaitsOnly "READY" := ⟨rfl, rfl, rfl⟩

/-- With an interval the poll for a resource is carried out. -/
theorem production_sound {service : OrderService σ} (positive : 0 < service.interval)
    (timeout : Nat) : (service.production timeout).Sound where
  -- Its one state to reach differs from the one to wait through.
  disjoint := by
    intro state target
    cases List.mem_singleton.mp target
    show "READY" ∉ ["PENDING"]
    decide
  attainable := .inl (List.cons_ne_nil _ _)
  positive := positive

/-- A listing fails, names a resource, or names none; the last is seen as a pending resource. -/
theorem Listing.cases (order : String) (listing : Listing σ) :
    (∃ failure, listing.reply.answer = .error failure) ∨
      (∃ response resource, listing.reply.answer = .ok response ∧
        named? response.body = some resource ∧ resource ≠ "" ∧
        (listing.tick order).outcome.answer = .ok (.found (some "READY") resource)) ∨
      listing.NamesNone ∧
        (listing.tick order).outcome.answer = .ok (.found (some "PENDING") "") := by
  -- An empty name is pending like none at all.
  unfold Listing.tick Listing.NamesNone
  dsimp only
  cases listing.reply.answer with
  | error failure => exact .inl ⟨failure, rfl⟩
  | ok response =>
    cases named : named? response.body with
    | none => exact .inr (.inr ⟨⟨response, rfl, .inl named⟩, by rw [Except.map, named]; rfl⟩)
    | some resource =>
      by_cases empty : resource = ""
      · subst empty
        exact .inr (.inr ⟨⟨response, rfl, .inr named⟩, by rw [Except.map, named]; rfl⟩)
      · refine .inr (.inl ⟨response, resource, rfl, named, empty, ?_⟩)
        simp [Except.map, named, observe, empty]

/-- What is made of the report on the poll. -/
def settle (order : String) (report : Report String) : Except Failure String := do
  match ← report.result s!"resources of order {order}" with
  | some resource => return resource
  | none => .error (.missingIdentifier firstResourcePath "order resources")

/-- The wait for a resource is the poll for it, whose report decides. -/
theorem orderResource_apply (service : OrderService σ) (order : String) (timeout : Nat) (env : σ)
    (start : Nat) :
    let polled := (service.production timeout).run (service.lookAtResources order) none env start
    service.orderResource order timeout env start =
      ⟨polled.answer >>= settle order, polled.env, polled.elapsed, polled.events⟩ := by
  -- The wait is the poll with a last step on what this reports.
  have polls : service.orderResource order timeout = (do
      let report ← (service.production timeout).run (service.lookAtResources order) none
      settle order report) := by
    refine congrArg (_ >>= ·) (funext fun report => ?_)
    rw [settle, Run.monadLift_bind]
    -- What differs is how the content of the report is told apart.
    refine congrArg (_ >>= ·) (funext fun content => ?_)
    cases content <;> rfl
  rw [polls, Run.bind_monadLift]

/-- What the poll concludes from its last look is what the wait concludes from its last listing. -/
theorem concludes_of_poll {service : OrderService σ} {order : String} {timeout start limit : Nat}
    {last : Listing σ} {earlier : List (Except Failure (Observation String))}
    {answer : Except Failure (Report String)}
    (ends : (service.production timeout).Ends limit earlier (last.tick order))
    (concludes : (service.production timeout).Concludes earlier (last.came - start)
      (last.tick order).outcome.answer answer) :
    Concludes order start limit last (answer >>= settle order) := by
  -- The last listing fails, names a resource or names none.
  have awaits := service.production_awaitsOnly timeout
  rcases last.cases order with ⟨failure, failed⟩ | ⟨response, resource, answered, named, proper,
    seen⟩ | ⟨none, seen⟩
  · -- The poll hands a failure on.
    have seen : (last.tick order).outcome.answer = .error failure := by
      simp only [Listing.tick, failed, Except.map]
    rw [seen] at concludes
    cases concludes with
    | failure => exact .failed failed
  · -- A resource that is named is the state to reach.
    rw [seen] at concludes
    obtain ⟨report, rfl, reached⟩ := awaits.concludes_of_reached concludes
    have settled : settle order report = .ok resource := by
      simp only [settle, Report.result, reached]
      rfl
    show Concludes order start limit last (settle order report)
    rw [settled]
    exact .named answered named proper
  · -- A listing that names nothing only ends a wait that has no time left.
    have pending : "PENDING" ≠ "READY" := by decide
    have late : limit ≤ last.came := ends.resolve_left fun decisive => by
      rw [seen, awaits.decisive_iff] at decisive
      exact pending decisive
    rw [seen] at concludes
    rw [awaits.concludes_of_other pending concludes]
    exact .late none late

/-- A wait ends with a failure of the service, or because all of its time has passed. -/
theorem Awaits.failure {order : String} {start timeout n : Nat} {shown : Nat → Listing σ}
    {o : Outcome σ String}
    (awaits : Awaits order start (start + min timeout Duration.horizon) shown n o)
    {failure : Failure} (failed : o.answer = .error failure) :
    (shown n).reply.answer = .error failure ∨
      ∃ elapsed, failure = .pollTimeout s!"resources of order {order}" (some "PENDING") elapsed ∧
        min timeout Duration.horizon ≤ elapsed := by
  -- A wait for a named resource does not fail, so two of its three ends are left.
  have concludes := awaits.answer
  rw [failed] at concludes
  cases concludes with
  | failed failed => exact .inl failed
  | late _ late => exact .inr ⟨_, rfl, by omega⟩

end OrderService

end Provision
