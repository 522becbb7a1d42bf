import Provision.Dict
import Provision.Engine
import Provision.Text

/-! The configuration comes from named variables, of which empty ones count as unset. -/

namespace Provision

/-- Why variables make no configuration. -/
inductive ConfigFault where
  | missing (name : String)
  | invalid (name value reason : String)
deriving DecidableEq

/-- The text of a fault. -/
def ConfigFault.message : ConfigFault → String
  | missing name => s!"Missing required setting {name}"
  | invalid name value reason => s!"Invalid value '{value}' for {name}: {reason}"

/-- How to reach the services of a cloud, and how long operations may take. -/
structure Config where
  region : String
  project : String
  /-- The domain of the cloud. -/
  cloud : String
  token : Option String := none
  /-- The addresses of services that are not where the domain puts them. -/
  endpoints : Dict String := Dict.empty
  /-- Certificates are not checked. -/
  insecure : Bool := false
  timeouts : Timeouts := {}
deriving DecidableEq

namespace Config

/-- The variables that are set and bear the name of a setting; of
several with one name the last counts. -/
def settings (vars : List (String × String)) : Dict String :=
  Dict.ofList (vars.filter fun (name, value) =>
    "HCS_".toList.isPrefixOf name.toList && !value.isEmpty)

/-- A setting that has to be there. -/
def required (settings : List (String × String)) (name : String) : Except ConfigFault String :=
  match Entries.get? name settings with
  | some value => .ok value
  | none => .error (.missing name)

/-- A truth value in words or digits, in letters of any case. -/
def readSwitch (name value : String) : Except ConfigFault Bool :=
  let word := Text.lower value
  if word ∈ ["true", "1", "yes"] then .ok true
  else if word ∈ ["false", "0", "no"] then .ok false
  else .error (.invalid name value "expected true or false")

/-- The longest timeout of a setting, one week in seconds. -/
def longestTimeout : Nat := 7 * 24 * 60 * 60

/-- A number of seconds from one up to a week. -/
def readTimeout (name value : String) : Except ConfigFault Nat :=
  match unsignedBelow 18446744073709551616 value with
  | none => .error (.invalid name value "expected a number of seconds")
  | some seconds =>
    if seconds = 0 ∨ longestTimeout < seconds then
      .error (.invalid name value "must be between 1 second and one week")
    else .ok (Duration.ofSeconds seconds)

/-- A setting that may be absent, in which case a default holds. -/
def optional (settings : List (String × String)) (name : String) (default : α)
    (read : String → String → Except ConfigFault α) : Except ConfigFault α :=
  match Entries.get? name settings with
  | some value => read name value
  | none => .ok default

/-- The name in small letters that a setting gives the address of, if it gives one. -/
def service? (name : String) : Option String :=
  let start := "HCS_ENDPOINT_".toList
  if start.isPrefixOf name.toList then
    some (Text.lower (String.ofList (name.toList.drop start.length)))
  else none

/-- The addresses that settings give services; of several for one service the last counts. -/
def endpointsOf (settings : List (String × String)) : Dict String :=
  Dict.ofList (settings.filterMap fun (name, url) => (service? name).map (·, url))

/-- The configuration that settings of distinct names make when
they are gone through in the given order. -/
def ofSettings (settings : List (String × String)) : Except ConfigFault Config := do
  -- The first setting at fault is the one that is reported.
  let region ← required settings "HCS_REGION_NAME"
  let project ← required settings "HCS_PROJECT_ID"
  let cloud ← required settings "HCS_CLOUD"
  let insecure ← optional settings "HCS_INSECURE" false readSwitch
  -- One setting holds for all operations.
  let timeouts ← optional settings "HCS_TIMEOUT" {} fun name value =>
    (readTimeout name value).map fun span => ⟨span, span, span⟩
  return { region, project, cloud, insecure, timeouts
           token := Entries.get? "HCS_AUTH_TOKEN" settings
           endpoints := endpointsOf settings }

/-- The configuration that variables make; settings are gone through in the order of their names. -/
def ofVars (vars : List (String × String)) : Except ConfigFault Config :=
  ofSettings (settings vars).entries

/-- An address with a slash at its end. -/
def withSlash (url : String) : String :=
  if url.toList.getLast? = some '/' then url else url ++ "/"

/-- The address that the domain gives a service in a region. -/
def defaultAddress (c : Config) (service region : String) : String :=
  s!"https://{service}.{region}.{c.cloud}/"

/-- The address of a service in a region, which a setting overrides for every region. -/
def addressIn (c : Config) (service region : String) : String :=
  withSlash ((c.endpoints.get? service).getD (c.defaultAddress service region))

/-- The address of a service. -/
def address (c : Config) (service : String) : String := c.addressIn service c.region

end Config

/-- Objects that tests against a real cloud may use. -/
structure Fixtures where
  availabilityZone : Option String
  vpc : Option String
  subnet : Option String
  network : Option String
  enterpriseProject : Option String
  rocketMqFlavor : Option String
deriving DecidableEq

/-- The fixtures that variables name; empty ones count as unset. -/
def Fixtures.ofVars (vars : List (String × String)) : Fixtures :=
  let set := Dict.ofList (vars.filter fun (_, value) => !value.isEmpty)
  { availabilityZone := set.get? "HCS_AVAILABILITY_ZONE"
    vpc := set.get? "HCS_VPC_ID"
    subnet := set.get? "HCS_SUBNET_ID"
    network := set.get? "HCS_NETWORK_ID"
    enterpriseProject := set.get? "HCS_ENTERPRISE_PROJECT_ID"
    rocketMqFlavor := set.get? "HCS_DMS_ROCKETMQ_FLAVOR_ID" }

end Provision
