import Provision.Catalogue.Endpoints

/-! Dedicated load balancers. -/

namespace Provision.Catalogue.LoadBalancer

/-- An attribute inside the object that requests and answers are wrapped in. -/
def wrapped (a : Attribute) (key : String) : Attribute := a.at_ s!"loadbalancer.{key}"

/-- The schema of load balancers. -/
def schema : Schema := .ofList "hcs_elb_loadbalancer" (some "Dedicated load balancer")
  [ wrapped { name := "name", required := true } "name"
  , wrapped
      { name := "availability_zone", type := .list .string, required := true, forceNew := true }
      "availability_zone_list"
  , wrapped { name := "vpc_id", forceNew := true } "vpc_id"
  , wrapped { name := "ipv4_subnet_id", forceNew := true } "vip_subnet_cidr_id"
  , wrapped { name := "ipv4_address", forceNew := true } "vip_address"
  , wrapped { name := "l4_flavor_id", forceNew := true } "l4_flavor_id"
  , wrapped { name := "cross_vpc_backend", type := .bool } "ip_target_enable"
  , wrapped { name := "description" } "description"
  , tagsAttribute
  , { name := "provisioning_status", computed := true
      readPath := some "loadbalancer.provisioning_status" } ]

/-- The path of one of them. -/
def path : String := s!"v3/{project}/elb/loadbalancers/{object}"

/-- How load balancers are handled. -/
def blueprint : Blueprint where
  service := "elb"
  create := { method := .post, path := s!"v3/{project}/elb/loadbalancers" }
  idPath := "loadbalancer.id"
  read := { method := .get, path }
  delete := { method := .delete, path, successCodes := [204] }
  statusPath := some "loadbalancer.provisioning_status"
  createPoll := some
    { pending := ["PENDING_CREATE"], target := ["ACTIVE"], failure := ["ERROR"]
      interval := Duration.ofSeconds 5 }
  updateGroups :=
    [ { attributes := ["name", "description", "cross_vpc_backend"]
        endpoint := { method := .put, path } } ]
  deletePoll := some
    { pending := ["ACTIVE", "PENDING_DELETE"], notFoundIsTarget := true
      interval := Duration.ofSeconds 5 }
  tagging := some
    { actionPath := s!"v2.0/{project}/loadbalancers/{object}/tags/action"
      readPath := some "loadbalancer.tags" }

/-- Fields without a switch that is off, since a creation switches it off by leaving it out. -/
def withoutOff (key : String) (fields : List (String × Document)) : List (String × Document) :=
  match Entries.get? key fields with
  | some (.bool false) => Entries.erase key fields
  | _ => fields

/-- The body of a creation. -/
def createBody : Document → Document
  | .object fields =>
    match Entries.get? "loadbalancer" fields with
    | some (.object inner) =>
      .object (Entries.insert "loadbalancer" (.object (withoutOff "ip_target_enable" inner)) fields)
    | _ => .object fields
  | d => d

/-- Load balancers. -/
def kind : Kind where
  name := "hcs_elb_loadbalancer"
  schema
  blueprint
  body purpose resource :=
    let body := Body.ofSchema schema purpose resource
    match purpose with
    | .create => .ok (some (createBody body))
    | .update _ => .ok (some body)

end Provision.Catalogue.LoadBalancer
