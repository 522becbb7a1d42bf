import Provision.Change
import Provision.Engine.Read

/-! Updating sends one request for each group of attributes that
has a change, and then the changed tags. -/

namespace Provision.Engine

/-- Whether an attribute can change in place, as the tags or in an update group. -/
def isUpdatable (e : Engine σ) (name : String) : Bool :=
  e.blueprint.tagging.any (·.name = name)
    || e.blueprint.updateGroups.any (·.attributes.contains name)

/-- The attributes to change, if the change is possible; none when there is nothing to change. -/
def plan (e : Engine σ) (identifier : String) (current : State) (wanted : Resource) :
    Except Failure (List String) := do
  match Change.between e.kind.schema wanted current with
  | .create => .error (.resourceGone (e.descriptor identifier).text)
  | .replace attributes => .error (.requiresReplacement attributes)
  | .nothing => return []
  | .update changed => do
    -- The resource is validated as it is: defaults are only filled in by a creation.
    e.validate wanted
    let uncovered := changed.filter fun name => !e.isUpdatable name
    if uncovered.isEmpty then return changed else .error (.notUpdatable uncovered)

/-- Sends the request of one group and waits until it has taken effect. -/
def updateGroup (e : Engine σ) (identifier : String) (wanted : Resource) (deadline : Nat)
    (group : UpdateGroup) : Run σ Unit := do
  let request ← e.request group.endpoint (some identifier)
  let body ← e.kind.body (.update group.attributes) wanted
  let _ ← e.remote.send (withBody request body)
  e.pollIfAny group.poll identifier deadline

/-- Sends the requests of groups in order. -/
def updateGroups (e : Engine σ) (identifier : String) (wanted : Resource) (deadline : Nat) :
    List UpdateGroup → Run σ Unit
  | [] => return ()
  | group :: rest => do
    e.updateGroup identifier wanted deadline group
    e.updateGroups identifier wanted deadline rest

/-- Applies changed tags. -/
def updateTags (e : Engine σ) (identifier : String) (current : State) (wanted : Resource)
    (changed : List String) : Run σ Unit := do
  match e.blueprint.tagging with
  | some tagging =>
    if changed.contains tagging.name then
      e.applyTags tagging identifier (current.attributes.get? tagging.name)
        (wanted.get? tagging.name)
    else return ()
  | none => return ()

/-- Updates an object in place; nothing is sent unless every change is possible. -/
def update (e : Engine σ) (id : ResourceId) (identifier : String) (current : State)
    (wanted : Resource) : Run σ State := do
  let start ← Run.now
  let deadline := Instant.after start e.timeouts.update
  let changed ← e.plan identifier current wanted
  e.updateGroups identifier wanted deadline (e.blueprint.updateGroups.filter (·.touches changed))
  e.updateTags identifier current wanted changed
  let state ← e.read id identifier
  return e.carryOver state wanted

end Provision.Engine
