import Provision.Catalogue.Endpoints

/-! Log groups, which can only be read as a listing of all of them. -/

namespace Provision.Catalogue.LogGroup

/-- The schema of log groups. -/
def schema : Schema := .ofList "hcs_lts_group" (some "Log group")
  [ { name := "group_name", required := true, forceNew := true : Attribute }.at_ "log_group_name"
  , { name := "ttl_in_days", type := .positiveInt, required := true
      description := some "Days to keep logs (1 to 365)" : Attribute }.at_ "ttl_in_days"
  , { name := "creation_time", type := .int, computed := true, readPath := some "creation_time" } ]

/-- The path of all of them. -/
def listing : String := s!"v2/{project}/groups"

/-- The path of one of them. -/
def path : String := s!"v2/{project}/groups/{object}"

/-- How log groups are handled. -/
def blueprint : Blueprint where
  service := "lts"
  create := { method := .post, path := listing, successCodes := [200, 201] }
  idPath := "log_group_id"
  read := { method := .get, path := listing }
  delete := { method := .delete, path, successCodes := [200, 204] }
  selector := some { listPath := "log_groups", idField := "log_group_id" }
  updateGroups := [{ attributes := ["ttl_in_days"], endpoint := { method := .post, path } }]

/-- Log groups. -/
def kind : Kind where
  name := "hcs_lts_group"
  schema
  blueprint
  body purpose resource := .ok (some (Body.ofSchema schema purpose resource))

end Provision.Catalogue.LogGroup
