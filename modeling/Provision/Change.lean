import Provision.Resource
import Provision.Schema

/-! What has to happen so that a remote object becomes what its resource asks for. -/

namespace Provision

/-- The way from a state to a resource. -/
inductive Change where
  /-- There is no object yet. -/
  | create
  /-- These attributes change in place. -/
  | update (attributes : List String)
  /-- These attributes can only change with a new object. -/
  | replace (attributes : List String)
  | nothing
deriving DecidableEq

namespace Change

/-- Whether an attribute set to a value differs from the state;
computed and internal ones never do. -/
def differs (s : Schema) (current : Attributes) (name : String) (value : Value) : Bool :=
  name.toList.head? != some '_'
    && !(s.find? name).any (·.computed)
    && !value.agreesWith (current.get? name)

/-- The names of the attributes that differ, in order. -/
def changed (s : Schema) (desired current : Attributes) : List String :=
  (desired.filter (differs s current)).keys

/-- The change from a state to a resource. -/
def between (s : Schema) (desired : Resource) (current : State) : Change :=
  if !current.present then create
  else
    let names := changed s desired.attributes current.attributes
    -- A single attribute that needs a new object decides for all of them.
    let replaced := names.filter fun name => (s.find? name).any (·.forceNew)
    if !replaced.isEmpty then replace replaced
    else if names.isEmpty then nothing
    else update names

end Change

end Provision
