import Provision.Engine.Read

/-! Creating makes an object, waits for its order if it is prepaid, and waits until it is ready. -/

namespace Provision.Engine

/-- An order is taken from the answer to the creation once, and looked up from then on. -/
def orderLookup (e : Engine σ) (lookup : Option (Request × String)) :
    Run (Option String × σ) (Option String) := fun env now =>
  match env.1 with
  -- This lookup takes no time and sends nothing.
  | some order => ⟨.ok (some order), (none, env.2), 0, []⟩
  | none =>
    let run : Run σ (Option String) := match lookup with
      | none => pure none
      | some (request, path) => do
        let response ← e.remote.send request
        response.body.readText? path
    let o := run env.2 now
    ⟨o.answer, (none, o.env), o.elapsed, o.events⟩

/-- The request that looks an order up, and where its answer names the order. -/
def lookupRequest (e : Engine σ) (terms : BillingTerms) (identifier : Option String) :
    Except Failure (Option (Request × String)) := do
  match terms.lookup with
  | some lookup => return some (← e.request lookup.endpoint identifier, lookup.orderPath)
  | none => return none

/-- Waits for the order of a prepaid resource and gives the identifier of what it produced. -/
def awaitOrder (e : Engine σ) (resource : Resource) (answer : Document) (created : Option String)
    (deadline : Nat) : Run σ String := do
  match e.billing, e.blueprint.billing with
  | none, _ =>
    Run.fail (.invalidConfiguration s!"{resource.id.text}: prepaid resources need a billing client")
  | _, none => Run.fail (.invalidConfiguration s!"{e.kind.name} cannot be prepaid")
  | some client, some terms => do
    let lookup ← e.lookupRequest terms created
    let named ← answer.readText? terms.orderPath
    -- The variable holds the order that the answer names, until the first lookup takes it.
    let order ← (Order.await (σ := Option String × σ) client.beside resource.id.text
      (e.orderLookup lookup) deadline).withVariable named
    -- The order is waited for in any case, even if the object is known without it.
    match created with
    | some identifier => return identifier
    | none => do
      let now ← Run.now
      client.resourceOf order.order (deadline - now)

/-- What a failed creation does about the object that it made. -/
def compensate (e : Engine σ) (resource : Resource) (identifier : String) : Run σ Unit := do
  match e.blueprint.compensation with
  | .orphan => return ()
  | .remove => do
    -- How the removal goes makes no difference to the failure that led to it.
    let _ ← (e.remove identifier (e.isPrepaid resource.attributes)).attempt
    return ()

/-- Waits until a new object is ready; one that does not get ready is compensated. -/
def awaitReady (e : Engine σ) (resource : Resource) (identifier : String) (deadline : Nat) :
    Run σ Unit := do
  match ← (e.pollIfAny e.blueprint.createPoll identifier deadline).attempt with
  | .ok _ => return ()
  | .error failure => do
    -- The failure of the poll is reported, whether or not the removal succeeds.
    e.compensate resource identifier
    Run.fail failure

/-- The identifier of a new object, directly or through its order. -/
def identify (e : Engine σ) (resource : Resource) (answer : Document) (deadline : Nat) :
    Run σ String := do
  let created ← answer.readText? e.blueprint.idPath
  -- What is prepaid waits for its order even if the answer names the object.
  if e.isPrepaid resource.attributes then e.awaitOrder resource answer created deadline
  else
    match created with
    | some identifier => return identifier
    | none => Run.fail (.missingIdentifier e.blueprint.idPath "create")

/-- The request that makes an object. -/
def createRequest (e : Engine σ) (resource : Resource) : Except Failure Request := do
  e.validate resource
  let request ← e.request e.blueprint.create none
  return withBody request (← e.kind.body .create resource)

/-- Sets the tags of a new object. -/
def tagNew (e : Engine σ) (resource : Resource) (identifier : String) : Run σ Unit := do
  match e.blueprint.tagging with
  | some tagging => e.applyTags tagging identifier none (resource.get? tagging.name)
  | none => return ()

/-- Creates the object of a resource and waits until it is ready. -/
def create (e : Engine σ) (wanted : Resource) : Run σ State := do
  let start ← Run.now
  let deadline := Instant.after start e.timeouts.create
  let resource := { wanted with attributes := e.kind.schema.applyDefaults wanted.attributes }
  -- Up to the request everything is checked, and nothing has been sent.
  let request ← e.createRequest resource
  let response ← e.remote.send request
  let identifier ← e.identify resource response.body deadline
  e.awaitReady resource identifier deadline
  e.tagNew resource identifier
  let state ← e.read resource.id identifier
  if state.present then return e.carryOver state resource
  else Run.fail (.resourceGone (e.descriptor identifier).text)

end Provision.Engine
