import Provision.Engine

/-! Deleting removes an object, or takes back its subscription, and waits until it is gone. -/

namespace Provision.Engine

/-- What a failed removal means: an object that is gone already counts as removed. -/
def settle (e : Engine σ) (identifier : String) (isPrepaid : Bool) (failure : Failure) :
    Run σ Unit := do
  if e.blueprint.notFound.covers failure then return ()
  else if isPrepaid then
    -- What the billing side fails with may be about the order only, so the object is read again.
    match ← e.fetch identifier with
    | some _ => Run.fail failure
    | none => return ()
  else Run.fail failure

/-- Removes an object that is there, and waits until it is gone. -/
def removeAndWait (e : Engine σ) (identifier : String) (isPrepaid : Bool) (deadline : Nat) :
    Run σ Unit := do
  match ← (e.remove identifier isPrepaid).attempt with
  | .ok _ => e.pollIfAny e.blueprint.deletePoll identifier deadline
  | .error failure => e.settle identifier isPrepaid failure

/-- Deletes an object, which decides by its last state how; what is prepaid is looked at first. -/
def delete (e : Engine σ) (identifier : String) (current : State) : Run σ Unit := do
  let start ← Run.now
  let deadline := Instant.after start e.timeouts.delete
  if e.isPrepaid current.attributes then
    -- Failures of the billing side do not tell whether the object is gone.
    match ← e.fetch identifier with
    | some _ => e.removeAndWait identifier true deadline
    | none => return ()
  else e.removeAndWait identifier false deadline

end Provision.Engine
