import Provision.Catalogue.Endpoints

/-! Address groups of the web application firewall, which travel
as one text of addresses with commas. -/

namespace Provision.Catalogue.IpGroup

/-- The schema of address groups. -/
def schema : Schema := .ofList "hcs_waf_ip_group" (some "WAF IP address group")
  [ { name := "name", required := true, readPath := some "name" }
  , { name := "ip_addresses", type := .list .string, required := true
      description := some "IP addresses or CIDR blocks" }
  , { name := "description", readPath := some "description" }
  , { name := "enterprise_project_id", forceNew := true }
  , { name := "size", type := .int, computed := true, readPath := some "size" } ]

/-- The path of one of them. -/
def path : String := s!"v1/{project}/waf/ip-group/{object}"

/-- How address groups are handled. -/
def blueprint : Blueprint where
  service := "waf"
  create := { method := .post, path := s!"v1/{project}/waf/ip-group" }
  idPath := "id"
  read := { method := .get, path }
  delete := { method := .delete, path, successCodes := [200] }
  updateGroups :=
    [{ attributes := ["name", "ip_addresses", "description"]
       endpoint := { method := .put, path, successCodes := [200] } }]
  headers := [("X-Language", "en-us")]

/-- The addresses of a resource, all of which have to be texts. -/
def addresses (resource : Resource) : Except Failure (List String) :=
  match resource.get? "ip_addresses" with
  | some (.list items) =>
    match items.mapM Value.string? with
    | some texts => .ok texts
    | none => .error (.invalidConfiguration s!"{resource.id.text}: ip_addresses must be strings")
  | _ => .ok []

/-- The body of every request; an empty description clears the one before. -/
def body (resource : Resource) : Except Failure Document := do
  let ips ← addresses resource
  return Document.ofBody
    [ .required "name" (FieldValue.ofString? (resource.string? "name"))
    , .required "ips" (.scalar (.string (String.intercalate "," ips)))
    , .required "description" (.scalar (.string ((resource.string? "description").getD "")))
    , .optional "enterprise_project_id"
        (FieldValue.ofString? (resource.string? "enterprise_project_id")) ]

/-- Address groups of the web application firewall. -/
def kind : Kind where
  name := "hcs_waf_ip_group"
  schema
  blueprint
  body _ resource := (body resource).map some

end Provision.Catalogue.IpGroup
