import Provision.Order
import Provision.Path.Extract

/-! The order service tells how orders stand and which resources they produced. -/

namespace Provision

/-- The order service at a remote side, asked at an interval. -/
structure OrderService (σ : Type) where
  remote : Remote σ
  interval : Nat := Duration.ofSeconds 10

namespace OrderService

/-- Orders await approval (1), are processed (2), are about to
be refunded (3), or await payment (6). -/
def pendingStates : List String := ["1", "2", "3", "6"]

/-- Completed orders. -/
def completedStates : List String := ["5"]

/-- Cancelled orders. -/
def cancelledStates : List String := ["4"]

/-- The poll for the completion of an order. -/
def completion (service : OrderService σ) (timeout : Nat) : PollSpec :=
  { pending := pendingStates, target := completedStates, failure := cancelledStates
    interval := service.interval, timeout }

/-- One look at the status of an order. -/
def lookAtOrder (service : OrderService σ) (order : String) : Run σ (Observation Document) := do
  let response ← service.remote.send
    { method := .get, path := s!"v2/orders/customer-orders/details/{order}" }
  return .found (← response.body.readText? "order_info.status") response.body

/-- Waits until an order is complete. -/
def waitOrder (service : OrderService σ) (order : String) (timeout : Nat) : Run σ Unit := do
  let report ← (service.completion timeout).run (service.lookAtOrder order) none
  match report.verdict with
  -- A cancelled order is a matter of billing, while running out of time is one of the poll.
  | .failed status => Run.fail (.billing s!"order {order} ended with status {status}")
  | _ => do
    let _ ← report.result s!"order {order}"
    return ()

/-- The main resource of an order. -/
def mainResourcePath : String := "data[?is_main_resource==`true`].resource_id|[0]"

/-- The first resource of an order; one that stands alone may not be flagged as main. -/
def firstResourcePath : String := "data[0].resource_id"

/-- The resource that a listing names, if any. -/
def listedResource? (listing : Document) : Except Failure (Option String) := do
  -- An empty text counts as found here, and keeps the first resource from being looked at.
  match ← listing.readText? mainResourcePath with
  | some resource => return some resource
  | none => listing.readText? firstResourcePath

/-- The poll for a resource of an order. -/
def production (service : OrderService σ) (timeout : Nat) : PollSpec :=
  { pending := ["PENDING"], target := ["READY"], interval := service.interval, timeout }

/-- One look at the resources of an order; one with an empty name is not ready. -/
def lookAtResources (service : OrderService σ) (order : String) : Run σ (Observation String) := do
  let response ← service.remote.send
    { method := .get, path := "v2/orders/suscriptions/resources", query := [("order_id", order)] }
  match ← listedResource? response.body with
  | some resource =>
    if resource.isEmpty then return .found (some "PENDING") ""
    else return .found (some "READY") resource
  | none => return .found (some "PENDING") ""

/-- Waits until an order has produced a resource. -/
def orderResource (service : OrderService σ) (order : String) (timeout : Nat) :
    Run σ String := do
  let report ← (service.production timeout).run (service.lookAtResources order) none
  match ← report.result s!"resources of order {order}" with
  | some resource => return resource
  -- A poll for which absence is no target never succeeds without a resource.
  | none => Run.fail (.missingIdentifier firstResourcePath "order resources")

/-- Takes back the subscriptions of resources. -/
def unsubscribe (service : OrderService σ) (resources : List String) : Run σ Unit := do
  let _ ← service.remote.send
    { method := .post
      path := "v2/orders/subscriptions/resources/unsubscribe"
      body := some (.object
        [ ("resource_ids", .array (resources.map .string))
        , ("unsubscribe_type", Document.ofInt 1) ]) }
  return ()

/-- The order service as billing side. -/
def client (service : OrderService σ) : BillingClient σ where
  waitOrder := service.waitOrder
  orderResource := service.orderResource
  unsubscribe := service.unsubscribe

end OrderService

end Provision
