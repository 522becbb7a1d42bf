import Provision.Poll

/-! Objects paid in advance come from orders, which first have
to appear and then to be completed. -/

namespace Provision

/-- The billing side: it completes orders, knows what they produced, and takes
subscriptions back. -/
structure BillingClient (σ : Type) where
  waitOrder : (order : String) → (timeout : Nat) → Run σ Unit
  orderResource : (order : String) → (timeout : Nat) → Run σ String
  unsubscribe : (resources : List String) → Run σ Unit

namespace BillingClient

/-- Waits until an order is complete. -/
def complete (client : BillingClient σ) (order : String) (timeout : Nat) : Run σ Unit :=
  (client.waitOrder order timeout).billed (.waitOrder order timeout)

/-- The main resource that an order produced. -/
def resourceOf (client : BillingClient σ) (order : String) (timeout : Nat) : Run σ String :=
  (client.orderResource order timeout).billed (.orderResource order timeout)

/-- The same client where runs have a variable beside the environment. -/
def beside (client : BillingClient σ) : BillingClient (τ × σ) where
  waitOrder order timeout := (client.waitOrder order timeout).beside
  orderResource order timeout := (client.orderResource order timeout).beside
  unsubscribe resources := (client.unsubscribe resources).beside

/-- Takes back the subscription of a resource. -/
def release (client : BillingClient σ) (resource : String) : Run σ Unit :=
  (client.unsubscribe [resource]).billed (.unsubscribe [resource])

end BillingClient

/-- An order and whether it is complete. -/
structure OrderRecord where
  order : String
  completed : Bool
deriving DecidableEq

namespace Order

/-- The time between two looks for an order. -/
def interval : Nat := Duration.ofMillis 500

/-- The states of an order that has not appeared, and of one that has. -/
def absent : String := "ORDER_ABSENT"

@[inherit_doc absent]
def present : String := "ORDER_PRESENT"

/-- An order with an empty name has not appeared. -/
def observe : Option String → Observation String
  | some order => if order.isEmpty then .found (some absent) "" else .found (some present) order
  | none => .found (some absent) ""

/-- The poll for an order with the time left until a deadline. -/
def appearance (left : Nat) : PollSpec :=
  { pending := [absent], target := [present], interval, timeout := left }

/-- Looks an order up until it appears. -/
def awaitOrder (label : String) (lookup : Run σ (Option String)) (deadline : Nat) :
    Run σ OrderRecord := do
  let start ← Run.now
  let look := do return observe (← lookup)
  let report ← (appearance (deadline - start)).run look (some deadline)
  match report.verdict with
  -- Success without an order is ruled out by the poll, for which absence is no target.
  | .succeeded (some order) => return ⟨order, false⟩
  | _ => Run.fail (.orderNeverAppeared label report.elapsed)

/-- Waits for an order to be complete with whatever time is left. -/
def awaitCompletion (client : BillingClient σ) (record : OrderRecord) (deadline : Nat) :
    Run σ OrderRecord := do
  let now ← Run.now
  client.complete record.order (deadline - now)
  return { record with completed := true }

/-- Both waits in sequence. -/
def await (client : BillingClient σ) (label : String) (lookup : Run σ (Option String))
    (deadline : Nat) : Run σ OrderRecord := do
  let record ← awaitOrder label lookup deadline
  awaitCompletion client record deadline

end Order

end Provision
