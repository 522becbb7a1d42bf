import Provision.Catalogue.Endpoints

/-! Virtual private clouds. -/

namespace Provision.Catalogue.Vpc

/-- The schema of virtual private clouds. -/
def schema : Schema := .ofList "hcs_vpc" (some "Virtual private cloud")
  [ { name := "name", required := true : Attribute }.at_ "vpc.name"
  , { name := "cidr", type := .cidr, required := true
      description := some "IPv4 range of the VPC (e.g., 192.168.0.0/16)" : Attribute }.at_
      "vpc.cidr"
  , { name := "description" : Attribute }.at_ "vpc.description"
  , { name := "enterprise_project_id", forceNew := true : Attribute }.at_
      "vpc.enterprise_project_id"
  , tagsAttribute
  , { name := "status", computed := true, readPath := some "vpc.status" } ]

/-- The path of one of them. -/
def path : String := s!"v1/{project}/vpcs/{object}"

/-- How virtual private clouds are handled. -/
def blueprint : Blueprint where
  service := "vpc"
  create := { method := .post, path := s!"v1/{project}/vpcs" }
  idPath := "vpc.id"
  read := { method := .get, path }
  delete := { method := .delete, path, successCodes := [204] }
  statusPath := some "vpc.status"
  createPoll := some
    { pending := ["CREATING"], target := ["OK"], failure := ["ERROR"]
      interval := Duration.ofSeconds 3 }
  updateGroups :=
    [{ attributes := ["name", "cidr", "description"], endpoint := { method := .put, path } }]
  deletePoll := some
    { pending := ["OK"], notFoundIsTarget := true, interval := Duration.ofSeconds 3 }
  tagging := some { actionPath := s!"v2.0/{project}/vpcs/{object}/tags/action" }

/-- Virtual private clouds. -/
def kind : Kind where
  name := "hcs_vpc"
  schema
  blueprint
  body purpose resource := .ok (some (Body.ofSchema schema purpose resource))

end Provision.Catalogue.Vpc
