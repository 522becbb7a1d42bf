import Provision.Catalogue.Endpoints

/-! Elastic block volumes, which can be prepaid and grow by an action of their own. -/

namespace Provision.Catalogue.Volume

/-- The schema of volumes. -/
def schema : Schema := .ofList "hcs_evs_volume" (some "Elastic volume") <|
  [ { name := "availability_zone", required := true, forceNew := true : Attribute }.at_
      "volume.availability_zone"
  , { name := "volume_type", required := true, forceNew := true : Attribute }.at_
      "volume.volume_type"
  , { name := "size", type := .positiveInt, required := true
      description := some "Size in GB; volumes can only grow" : Attribute }.at_ "volume.size"
  , { name := "name" : Attribute }.at_ "volume.name"
  , { name := "description" : Attribute }.at_ "volume.description"
  , { name := "multiattach", type := .bool, forceNew := true : Attribute }.at_
      "volume.multiattach" ]
  ++ chargingAttributes ++
  [ { tagsAttribute with readPath := some "volume.tags" }
  , { name := "status", computed := true, readPath := some "volume.status" } ]

/-- The path of one of them. -/
def path : String := s!"v2/{project}/cloudvolumes/{object}"

/-- How volumes are handled. -/
def blueprint : Blueprint where
  service := "evs"
  create := { method := .post, path := s!"v2.1/{project}/cloudvolumes" }
  idPath := "volume_ids[0]"
  read := { method := .get, path }
  delete := { method := .delete, path }
  statusPath := some "volume.status"
  createPoll := some
    { pending := ["creating", "downloading"], target := ["available"], failure := ["error"]
      interval := Duration.ofSeconds 5 }
  updateGroups :=
    [ { attributes := ["name", "description"], endpoint := { method := .put, path } }
    , { attributes := ["size"]
        endpoint := { method := .post, path := s!"v2.1/{project}/cloudvolumes/{object}/action" }
        poll := some
          { pending := ["extending"], target := ["available", "in-use"]
            failure := ["error_extending"]
            interval := Duration.ofSeconds 5 } } ]
  deletePoll := some
    { pending := ["available", "deleting", "in-use"], failure := ["error_deleting"]
      notFoundIsTarget := true, interval := Duration.ofSeconds 5 }
  billing := some { orderPath := "order_id" }
  tagging := some { actionPath := s!"v2/{project}/cloudvolumes/{object}/tags/action" }

/-- The billing block of a prepaid creation. -/
def billingBlock (resource : Resource) : Except Failure Document := do
  let (unit, count) ← paidPeriod resource
  match periodCode? unit with
  | none => .error (.invalidConfiguration s!"{resource.id.text}: unknown period_unit '{unit}'")
  | some code =>
    let renew := (resource.bool? "auto_renew").getD false
    return Document.ofBody
      [ .required "chargingMode" (.scalar (.string prepaid))
      , .required "periodType" (.scalar (Document.ofInt code))
      , .required "periodNum" (.scalar (Document.ofInt count.toInt))
      , .required "isAutoRenew" (.scalar (.string (toString renew)))
      , .required "isAutoPay" (.scalar (.string "true")) ]

/-- The body of the action by which a volume grows. -/
def extendBody (resource : Resource) : Document :=
  let autoPay := if isPrepaid resource then some "true" else none
  Document.ofBody
    [ .required "os-extend"
        (.object [Field.required "new_size" (FieldValue.ofAttribute (resource.get? "size"))])
    , .optional "bssParam" (.object [Field.optional "isAutoPay" (FieldValue.ofString? autoPay)]) ]

/-- The body of a request for a purpose. -/
def body (purpose : Purpose) (resource : Resource) : Except Failure Document := do
  match purpose with
  | .create =>
    let base := Body.ofSchema schema purpose resource
    if isPrepaid resource then return base.set "bssParam" (← billingBlock resource) else return base
  | .update names =>
    if names.contains "size" then return extendBody resource
    else return Body.ofSchema schema purpose resource

/-- Elastic block volumes. -/
def kind : Kind where
  name := "hcs_evs_volume"
  schema
  blueprint
  body purpose resource := (body purpose resource).map some

end Provision.Catalogue.Volume
