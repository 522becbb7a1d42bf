import Provision.Catalogue.Endpoints

/-! Instances of the RocketMQ message service, which can be prepaid
and are removed when they fail to start. -/

namespace Provision.Catalogue.RocketMq

/-- The schema of instances. -/
def schema : Schema := .ofList "hcs_dms_rocketmq_instance" (some "RocketMQ instance") <|
  [ { name := "name", required := true : Attribute }.at_ "name"
  , { name := "description" : Attribute }.at_ "description"
  , { name := "engine_version", required := true, forceNew := true : Attribute }.at_
      "engine_version"
  , { name := "flavor_id", required := true, forceNew := true : Attribute }.at_ "product_id"
  , { name := "storage_spec_code", required := true, forceNew := true : Attribute }.at_
      "storage_spec_code"
  , { name := "storage_space", type := .positiveInt, required := true
      forceNew := true : Attribute }.at_ "storage_space"
  , { name := "broker_num", type := .positiveInt, forceNew := true : Attribute }.at_ "broker_num"
  , { name := "vpc_id", required := true, forceNew := true : Attribute }.at_ "vpc_id"
  , { name := "subnet_id", required := true, forceNew := true : Attribute }.at_ "subnet_id"
  , { name := "security_group_id", required := true, forceNew := true : Attribute }.at_
      "security_group_id"
  , { name := "availability_zones", type := .list .string, required := true
      forceNew := true : Attribute }.at_ "available_zones"
  , { name := "enable_acl", type := .bool : Attribute }.at_ "enable_acl" ]
  ++ chargingAttributes ++
  [ tagsAttribute
  , { name := "status", computed := true, readPath := some "status" }
  , { name := "namesrv_address", computed := true, readPath := some "namesrv_address" } ]

/-- The code that the service gives for instances that are not there. -/
def instanceNotFound : String := "DMS.00404022"

/-- The engine of the service that instances run on. -/
def engine : String := "reliability"

/-- The path of one of them. -/
def path : String := s!"v2/{project}/instances/{object}"

/-- How instances are handled. -/
def blueprint : Blueprint where
  service := "dms"
  create := { method := .post, path := s!"v2/{engine}/{project}/instances" }
  idPath := "instance_id"
  read := { method := .get, path }
  delete := { method := .delete, path, successCodes := [204] }
  statusPath := some "status"
  goneStates := ["DELETED"]
  createPoll := some
    { pending := ["CREATING"], target := ["RUNNING"], failure := ["CREATEFAILED", "ERROR"]
      initialDelay := Duration.ofSeconds 120, timeout := Duration.ofMinutes 50 }
  updateGroups :=
    [{ attributes := ["name", "description", "enable_acl"]
       endpoint := { method := .put, path, successCodes := [204] } }]
  deletePoll := some
    { pending := ["DELETING", "RUNNING"], notFoundIsTarget := true
      timeout := Duration.ofMinutes 30 }
  notFound := { errorCodes := [instanceNotFound] }
  billing := some { orderPath := "order_id" }
  tagging := some
    { actionPath := s!"v2/{project}/rocketmq/{object}/tags/action", readPath := some "tags" }
  compensation := .remove

/-- The billing block of a prepaid creation. -/
def billingBlock (resource : Resource) : Except Failure Document := do
  let (unit, count) ← paidPeriod resource
  return Document.ofBody
    [ .required "charging_mode" (.scalar (.string prepaid))
    , .required "period_type" (.scalar (.string unit))
    , .required "period_num" (.scalar (Document.ofInt count.toInt))
    , .optional "is_auto_renew" (FieldValue.ofBool? (resource.bool? "auto_renew"))
    , .required "is_auto_pay" (.scalar (.bool true)) ]

/-- The body of a request for a purpose. -/
def body (purpose : Purpose) (resource : Resource) : Except Failure Document := do
  let base := Body.ofSchema schema purpose resource
  match purpose with
  | .create =>
    -- The engine is no attribute of instances, as there is only one.
    let named := base.set "engine" (.string engine)
    if isPrepaid resource then return named.set "bss_param" (← billingBlock resource)
    else return named
  | .update _ => return base

/-- Instances of the RocketMQ message service. -/
def kind : Kind where
  name := "hcs_dms_rocketmq_instance"
  schema
  blueprint
  body purpose resource := (body purpose resource).map some

end Provision.Catalogue.RocketMq
