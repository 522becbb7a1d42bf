import Provision.Billing
import Provision.Catalogue
import Provision.Config
import Provision.Engine.Create
import Provision.Engine.Delete
import Provision.Engine.Update

/-! A provider runs the operations of every kind in the
catalogue against the services of one cloud. -/

namespace Provision

/-- How an operation of a provider failed, and for which resource. -/
structure ProviderFailure where
  text : String
  resource : Option ResourceId := none
  /-- The failure of the operation, unless none was started. -/
  cause : Option Failure := none
deriving DecidableEq

namespace ProviderFailure

/-- The failure of an operation. -/
def ofFailure (failure : Failure) : ProviderFailure :=
  { text := failure.message, cause := some failure }

/-- The text of a failure, behind the resource that it is about. -/
def message (f : ProviderFailure) : String :=
  match f.resource with
  | some id => s!"[{id.text}] {f.text}"
  | none => f.text

end ProviderFailure

/-- A cloud, and how its services are reached by their addresses. -/
structure Provider (σ : Type) where
  config : Config
  /-- The remote side at the address of a service. -/
  service : (address : String) → Remote σ
  billingInterval : Nat := Duration.ofSeconds 10

namespace Provider

/-- The name that a provider goes by. -/
def name : String := "hcs"

/-- The names of the kinds that a provider handles. -/
def kindNames : List String := Catalogue.kinds.map (·.name)

/-- The order service of the cloud. -/
def orders (p : Provider σ) : OrderService σ :=
  { remote := p.service (p.config.address "bss"), interval := p.billingInterval }

/-- The engine for the objects of a kind. -/
def engine (p : Provider σ) (kind : Kind) : Engine σ :=
  { kind
    remote := p.service (p.config.address kind.blueprint.service)
    billing := some p.orders.client
    params := Dict.empty.insert "project_id" p.config.project
    timeouts := p.config.timeouts }

/-- An operation on a resource by the engine of its kind; unknown kinds are refused. -/
def operate (p : Provider σ) (id : ResourceId) (operation : Engine σ → Run σ α) (env : σ)
    (now : Nat) : Except ProviderFailure α × σ :=
  match Catalogue.find? id.type with
  -- Nothing is started for a kind that is not in the catalogue.
  | none => (.error { text := s!"Unknown resource type: {id.type}", resource := some id }, env)
  | some kind =>
    let o := operation (p.engine kind) env now
    (o.answer.mapError fun failure =>
        { ProviderFailure.ofFailure failure with resource := some id },
      o.env)

end Provider

end Provision
