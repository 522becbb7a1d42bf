import Provision.Kind

/-! Schemas and blueprints describe themselves as documents, for those who only look at them. -/

namespace Provision

namespace Document

/-- A list of texts. -/
def strings (texts : List String) : Document := array (texts.map string)

/-- An optional part, null when it is not there. -/
def ofOption (describe : α → Document) : Option α → Document
  | some a => describe a
  | none => null

/-- Pairs of texts. -/
def pairs (entries : List (String × String)) : Document :=
  array (entries.map fun (key, value) => strings [key, value])

/-- A span in whole milliseconds. -/
def millis (span : Nat) : Document := ofInt (Duration.millis span)

/-- A document in which each double is an object that holds its
text, as are those that are no number. -/
def ofDouble (x : Binary64) : Document := object [("$float", string x.text)]

mutual

/-- A document with its doubles spelled out. -/
def spelled : Document → Document
  | number (.float x _) => ofDouble x
  | array items => array (spelledItems items)
  | object fields => object (spelledFields fields)
  | d => d

/-- Items with their doubles spelled out. -/
def spelledItems : List Document → List Document
  | [] => []
  | item :: rest => item.spelled :: spelledItems rest

/-- Fields with their doubles spelled out. -/
def spelledFields : List (String × Document) → List (String × Document)
  | [] => []
  | (key, value) :: rest => (key, value.spelled) :: spelledFields rest

end

end Document

namespace Value

mutual

/-- The document of a value with its doubles spelled out, so that none of them is lost. -/
def describe : Value → Document
  | string s => .string s
  | int n => Document.ofInt n.toInt
  | float x => Document.ofDouble x
  | bool b => .bool b
  | list items => .array (describeItems items)
  | map entries => .object (describeEntries entries)

/-- The documents of items with their doubles spelled out. -/
def describeItems : List Value → List Document
  | [] => []
  | item :: rest => item.describe :: describeItems rest

/-- The documents of entries with their doubles spelled out. -/
def describeEntries : List (String × Value) → List (String × Document)
  | [] => []
  | (key, value) :: rest => (key, value.describe) :: describeEntries rest

end

end Value

/-- The description of an attribute. -/
def Attribute.describe (a : Attribute) : Document :=
  .ofFields
    [ ("name", .string a.name), ("type", .string a.type.name), ("required", .bool a.required)
    , ("force_new", .bool a.forceNew), ("computed", .bool a.computed)
    , ("default", .ofOption Value.describe a.default?)
    , ("description", .ofOption .string a.description)
    , ("request_key", .ofOption .string a.requestKey), ("read_path", .ofOption .string a.readPath) ]

/-- The description of a schema. -/
def Schema.describe (s : Schema) : Document :=
  .ofFields
    [ ("resource_type", .string s.resourceType), ("description", .ofOption .string s.description)
    , ("attributes", .array (s.list.map Attribute.describe))
    , ("force_new", .strings s.forceNewNames) ]

/-- The description of status codes. -/
def describeCodes (codes : List Nat) : Document :=
  .array (codes.map fun (code : Nat) => Document.ofInt code)

/-- The description of an endpoint. -/
def Endpoint.describe (e : Endpoint) : Document :=
  .ofFields
    [ ("method", .string e.method.text), ("path", .string e.path)
    , ("ok", describeCodes e.successCodes) ]

/-- The description of a poll. -/
def PollSpec.describe (p : PollSpec) : Document :=
  .ofFields
    [ ("pending", .strings p.pending), ("target", .strings p.target)
    , ("failure", .strings p.failure)
    , ("interval_ms", .millis p.interval), ("initial_delay_ms", .millis p.initialDelay)
    , ("timeout_ms", .millis p.timeout), ("not_found_is_target", .bool p.notFoundIsTarget)
    , ("not_found_checks", .ofInt p.notFoundChecks) ]

/-- The description of an update group. -/
def UpdateGroup.describe (g : UpdateGroup) : Document :=
  .ofFields
    [ ("attributes", .strings g.attributes), ("endpoint", g.endpoint.describe)
    , ("poll", .ofOption PollSpec.describe g.poll) ]

/-- The description of an order lookup. -/
def OrderLookup.describe (l : OrderLookup) : Document :=
  .ofFields [("endpoint", l.endpoint.describe), ("order_id_path", .string l.orderPath)]

/-- The description of billing terms. -/
def BillingTerms.describe (t : BillingTerms) : Document :=
  .ofFields
    [ ("charging_mode_attribute", .string t.modeAttribute), ("order_id_path", .string t.orderPath)
    , ("order_lookup", .ofOption OrderLookup.describe t.lookup) ]

/-- The description of a tagging. -/
def Tagging.describe (t : Tagging) : Document :=
  .ofFields
    [ ("attribute", .string t.name), ("action_path", .string t.actionPath)
    , ("read_path", .ofOption .string t.readPath) ]

/-- The description of a selector. -/
def Selector.describe (s : Selector) : Document :=
  .ofFields [("list_path", .string s.listPath), ("id_field", .string s.idField)]

/-- The description of a rule for absence. -/
def NotFoundRule.describe (r : NotFoundRule) : Document :=
  .ofFields [("status_codes", describeCodes r.statusCodes), ("error_codes", .strings r.errorCodes)]

/-- The word for a compensation. -/
def Compensation.text : Compensation → String
  | orphan => "orphan"
  | remove => "delete"

/-- The description of a blueprint. -/
def Blueprint.describe (b : Blueprint) : Document :=
  .ofFields
    [ ("service", .string b.service), ("create", b.create.describe), ("id_path", .string b.idPath)
    , ("read", b.read.describe), ("read_selector", .ofOption Selector.describe b.selector)
    , ("status_path", .ofOption .string b.statusPath), ("gone_states", .strings b.goneStates)
    , ("create_poll", .ofOption PollSpec.describe b.createPoll)
    , ("update_groups", .array (b.updateGroups.map UpdateGroup.describe))
    , ("delete", b.delete.describe), ("delete_poll", .ofOption PollSpec.describe b.deletePoll)
    , ("not_found", b.notFound.describe), ("headers", .pairs b.headers)
    , ("billing", .ofOption BillingTerms.describe b.billing)
    , ("tags", .ofOption Tagging.describe b.tagging)
    , ("compensation", .string b.compensation.text) ]

end Provision
