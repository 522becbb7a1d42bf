import Provision.Kind

/-! Endpoints of the catalogue's kinds lie below a project, and mostly name an object. -/

namespace Provision.Catalogue

/-- The place of the project in a path. -/
def project : String := Template.hole "project_id"

/-- The place of an object's identifier in a path. -/
def object : String := Template.hole "id"

/-- The attributes of whatever can be prepaid: how it is charged, and for how long. -/
def chargingAttributes : List Attribute :=
  [ { name := "charging_mode", type := .chargingMode, forceNew := true
      default? := some (.string "postPaid") }
  , { name := "period_unit", type := .oneOf ["month", "year"], forceNew := true }
  , { name := "period", type := .positiveInt, forceNew := true }
  , { name := "auto_renew", type := .bool } ]

/-- The tags of an object. -/
def tagsAttribute : Attribute := { name := "tags", type := .tags }

/-- The unit and number of the periods that a prepaid resource
is paid for, both of which it needs. -/
def paidPeriod (resource : Resource) : Except Failure (String × Int64) :=
  match resource.string? "period_unit", (resource.get? "period").bind Value.int? with
  | some unit, some count => .ok (unit, count)
  | _, _ => .error (.invalidConfiguration
      s!"{resource.id.text}: period_unit and period are required when charging_mode is prePaid")

/-- Whether a resource is to be paid in advance. -/
def isPrepaid (resource : Resource) : Bool := resource.string? "charging_mode" = some prepaid

/-- The code of a period's unit. -/
def periodCode? : String → Option Int
  | "month" => some 2
  | "year" => some 3
  | _ => none

end Provision.Catalogue
