import Provision.Proofs.Body.Placement
import Provision.Proofs.Catalogue
import Provision.Proofs.Engine.Identifier
import Provision.Proofs.Engine.Misconfigured
import Provision.Proofs.Engine.Required

/-! The kinds that can be prepaid decide twice whether a resource is, for the body of the request
and for the order behind it: both decisions are the same, and all other kinds decide neither. -/

namespace Provision

/-- Whether a body has a billing block, under either of the keys that stand for one. -/
def Document.isBilled (body : Document) : Bool :=
  (body.get? "bssParam").isSome || (body.get? "bss_param").isSome

/-- An object has what is set under a key, and under all others what it had. -/
theorem Document.get?_set (fields : List (String × Document)) (key other : String)
    (value : Document) : ((object fields).set key value).get? other =
      if key = other then some value else (object fields).get? other :=
  Entries.get?_insert key other value fields

/-- Anything set under another key makes no difference to the billing block. -/
theorem Document.isBilled_set (fields : List (String × Document)) {key : String}
    (other : key ≠ "bssParam" ∧ key ≠ "bss_param") (value : Document) :
    ((object fields).set key value).isBilled = (object fields).isBilled := by
  rw [isBilled, get?_set, if_neg other.1, get?_set, if_neg other.2, isBilled]

namespace Template

/-- Pieces can be filled if there is a parameter for each name. -/
theorem exists_fill {params : Dict String} {parts : List Part}
    (given : ∀ name, .hole name ∈ parts → params.contains name = true) :
    ∃ path, fill params parts = .ok path := by
  -- A character stands for itself, so only names can be missing.
  induction parts with
  | nil => exact ⟨[], rfl⟩
  | cons part rest ih =>
    obtain ⟨path, filled⟩ := ih fun name member => given name (List.mem_cons_of_mem part member)
    cases part with
    | char c => exact ⟨c :: path, by rw [fill, filled]; rfl⟩
    | hole name =>
      obtain ⟨value, there⟩ := Option.isSome_iff_exists.mp (given name List.mem_cons_self)
      exact ⟨value.toList ++ path, by simp only [fill, there, filled]; rfl⟩

end Template

namespace Catalogue

/-- How a kind writes the billing block of a creation: its key, and in it those of the period. -/
structure BlockForm where
  key : String
  unitKey : String
  countKey : String
  /-- What is written for a unit of the period, if that is known. -/
  unit? : String → Option Document

/-- The billing block of a volume has codes for the units. -/
def Volume.blockForm : BlockForm :=
  ⟨"bssParam", "periodType", "periodNum", fun unit => (periodCode? unit).map Document.ofInt⟩

/-- The billing block of an instance has the units by their names. -/
def RocketMq.blockForm : BlockForm :=
  ⟨"bss_param", "period_type", "period_num", fun unit => some (.string unit)⟩

/-- The form of the billing block of a kind, if it can have one. -/
def blockForm? (kind : Kind) : Option BlockForm :=
  if kind.name = Volume.kind.name then some Volume.blockForm
  else if kind.name = RocketMq.kind.name then some RocketMq.blockForm
  else none

/-- A body has a billing block of a form, for so many periods of a unit. -/
def BlockForm.Bills (form : BlockForm) (body : Document) (unit : String) (count : Int64) : Prop :=
  ∃ block shown, body.get? form.key = some block ∧ form.unit? unit = some shown ∧
    block.get? form.unitKey = some shown ∧
    block.get? form.countKey = some (Document.ofInt count.toInt)

/-- A resource does not say for how long it is paid. -/
def Unset (resource : Resource) : Prop :=
  resource.get? "period_unit" = none ∨ resource.get? "period" = none

/-- A resource says for how many periods of a unit it is paid. -/
structure PaidFor (resource : Resource) (unit : String) (count : Int64) : Prop where
  unit : resource.get? "period_unit" = some (.string unit)
  count : resource.get? "period" = some (.int count)

/-- A resource that says for how long it is paid does not leave that out. -/
theorem PaidFor.not_unset {resource : Resource} {unit : String} {count : Int64}
    (paidFor : PaidFor resource unit count) : ¬Unset resource := by
  -- One of the two attributes would be both set and not.
  rintro (missing | missing)
  · cases paidFor.unit.symm.trans missing
  · cases paidFor.count.symm.trans missing

/-- No body that a schema of the catalogue gives has a billing block. -/
theorem ofSchema_unbilled {kind : Kind} (listed : kind ∈ kinds) (purpose : Purpose)
    (resource : Resource) : (Body.ofSchema kind.schema purpose resource).isBilled = false := by
  -- No request key of the catalogue begins with a key of the block.
  have free : ∀ kind ∈ kinds, ∀ a ∈ kind.schema.list, ∀ other ∈ a.requestKey,
      ∀ first ∈ (Body.position other).head?, first ≠ "bssParam" ∧ first ≠ "bss_param" := by
    decide +kernel
  have nothing (key : String) (billing : key = "bssParam" ∨ key = "bss_param") :
      (Body.ofSchema kind.schema purpose resource).get? key = none := by
    apply Body.get?_ofSchema_eq_none (Body.keysApart_of_mem kind listed)
    intro a member other keyed first
    obtain ⟨apart, apartToo⟩ := free kind listed a member other keyed key first
    exact billing.elim apart apartToo
  rw [Document.isBilled, nothing _ (.inl rfl), nothing _ (.inr rfl)]
  rfl

/-- The body that a schema gives is an object, which has no billing block in the catalogue. -/
theorem exists_object_unbilled {kind : Kind} (listed : kind ∈ kinds) (purpose : Purpose)
    (resource : Resource) : ∃ fields, Body.ofSchema kind.schema purpose resource = .object fields ∧
      (Document.object fields).isBilled = false :=
  ⟨_, rfl, ofSchema_unbilled listed purpose resource⟩

/-- A schema has the attributes for the period of what is prepaid. -/
structure ChecksPeriod (s : Schema) : Prop where
  unit : ∀ value, s.setFault? "period_unit" value =
    (AttributeType.oneOf ["month", "year"]).fault? value
  count : ∀ value, s.setFault? "period" value = AttributeType.positiveInt.fault? value

/-- The period of a resource without faults is read as it is set, or found to be unset. -/
theorem paidPeriod_of_sound {s : Schema} (checks : ChecksPeriod s) {resource : Resource}
    (sound : s.faults resource.attributes = []) :
    (∃ message, paidPeriod resource = .error (.invalidConfiguration message)) ∧ Unset resource ∨
      ∃ unit count, unit ∈ ["month", "year"] ∧ PaidFor resource unit count ∧
        paidPeriod resource = .ok (unit, count) := by
  -- The unit is read first. What is set has passed its check, so only what is not set is missed.
  unfold paidPeriod Resource.string?
  cases unitSet : resource.get? "period_unit" with
  | none => exact .inl ⟨⟨_, rfl⟩, .inl unitSet⟩
  | some value =>
    obtain ⟨unit, known, rfl⟩ :=
      AttributeType.exists_of_oneOf (checks.unit value ▸ Schema.setFault?_eq_none sound unitSet)
    cases countSet : resource.get? "period" with
    | none => exact .inl ⟨⟨_, rfl⟩, .inr countSet⟩
    | some value =>
      obtain ⟨count, rfl⟩ := AttributeType.exists_of_positiveInt
        (checks.count value ▸ Schema.setFault?_eq_none sound countSet)
      exact .inr ⟨unit, count, known, ⟨unitSet, countSet⟩, rfl⟩

/-- What building the body of a creation comes to for a resource that is prepaid or not: it has no
billing block, or it lacks the period, or it has a block for that. -/
inductive Charges (kind : Kind) (resource : Resource) :
    (prepaid : Bool) → Except Failure (Option Document) → Prop where
  | free {body : Document} : body.isBilled = false →
      Charges kind resource false (.ok (some body))
  | unset {message : String} : Unset resource →
      Charges kind resource true (.error (.invalidConfiguration message))
  | billed {form : BlockForm} {unit : String} {count : Int64} {body : Document} :
      blockForm? kind = some form → PaidFor resource unit count → form.Bills body unit count →
      body.isBilled = true → Charges kind resource true (.ok (some body))

/-- The units of periods have codes. -/
theorem exists_periodCode {unit : String} (known : unit ∈ ["month", "year"]) :
    ∃ code, periodCode? unit = some code := by
  -- There are two units, each with its own code.
  simp only [List.mem_cons, List.not_mem_nil, or_false] at known
  rcases known with rfl | rfl
  · exact ⟨2, rfl⟩
  · exact ⟨3, rfl⟩

/-- The billing block of a volume has the number of periods, and the code of their unit. -/
theorem Volume.billingBlock_of_period {resource : Resource} {unit : String} {count : Int64}
    {code : Int} (read : paidPeriod resource = .ok (unit, count))
    (coded : periodCode? unit = some code) :
    ∃ block, billingBlock resource = .ok block ∧
      block.get? "periodType" = some (Document.ofInt code) ∧
      block.get? "periodNum" = some (Document.ofInt count.toInt) := by
  let renew := (resource.bool? "auto_renew").getD false
  -- No two fields of the block have one key, so each shows what it was given.
  refine ⟨Document.ofBody
    [ .required "chargingMode" (.scalar (.string prepaid))
    , .required "periodType" (.scalar (Document.ofInt code))
    , .required "periodNum" (.scalar (Document.ofInt count.toInt))
    , .required "isAutoRenew" (.scalar (.string (toString renew)))
    , .required "isAutoPay" (.scalar (.string "true")) ], ?_, ?_, ?_⟩
  · simp only [billingBlock, read, Bind.bind, Except.bind, coded]
    rfl
  · rw [Body.get?_ofBody_eq]
    rfl
  · rw [Body.get?_ofBody_eq]
    rfl

/-- The billing block of an instance has the number of periods, and the name of their unit. -/
theorem RocketMq.billingBlock_of_period {resource : Resource} {unit : String} {count : Int64}
    (read : paidPeriod resource = .ok (unit, count)) :
    ∃ block, billingBlock resource = .ok block ∧
      block.get? "period_type" = some (.string unit) ∧
      block.get? "period_num" = some (Document.ofInt count.toInt) := by
  -- As for a volume, no two fields of the block have one key.
  refine ⟨Document.ofBody
    [ .required "charging_mode" (.scalar (.string prepaid))
    , .required "period_type" (.scalar (.string unit))
    , .required "period_num" (.scalar (Document.ofInt count.toInt))
    , .optional "is_auto_renew" (FieldValue.ofBool? (resource.bool? "auto_renew"))
    , .required "is_auto_pay" (.scalar (.bool true)) ], ?_, ?_, ?_⟩
  · simp only [billingBlock, read, Bind.bind, Except.bind]
    rfl
  · rw [Body.get?_ofBody_eq]
    rfl
  · rw [Body.get?_ofBody_eq]
    rfl

/-- What becomes of the billing block of a resource: it lacks the period, or shows it in a form. -/
def Blocks (form : BlockForm) (resource : Resource) (block : Except Failure Document) : Prop :=
  (∃ message, block = .error (.invalidConfiguration message)) ∧ Unset resource ∨
    ∃ unit count made shown, PaidFor resource unit count ∧ block = .ok made ∧
      form.unit? unit = some shown ∧ made.get? form.unitKey = some shown ∧
      made.get? form.countKey = some (Document.ofInt count.toInt)

/-- A body that has nothing but its billing block under the key of that is built with the block when
the resource is prepaid. -/
theorem charges_of_blocks {kind : Kind} {resource : Resource} {form : BlockForm}
    (known : blockForm? kind = some form) (billing : form.key = "bssParam" ∨ form.key = "bss_param")
    {fields : List (String × Document)} (plain : (Document.object fields).isBilled = false)
    {block : Except Failure Document} (blocks : Blocks form resource block) :
    Charges kind resource (isPrepaid resource)
      (if isPrepaid resource then
        block.map fun block => some ((Document.object fields).set form.key block)
      else .ok (some (.object fields))) := by
  cases paid : isPrepaid resource with
  | false => exact .free plain
  | true =>
    rw [if_pos rfl]
    -- Without the period there is no block, and with it the block stands under its own key.
    rcases blocks with ⟨⟨message, rfl⟩, unset⟩ |
      ⟨unit, count, made, shown, paidFor, rfl, coded, unitShown, countShown⟩
    · exact .unset unset
    · have there : ((Document.object fields).set form.key made).get? form.key = some made :=
        (Document.get?_set _ _ _ _).trans (if_pos rfl)
      refine .billed known paidFor ⟨made, shown, there, coded, unitShown, countShown⟩ ?_
      -- Either key counts as a billing block.
      rcases billing with first | second
      · rw [Document.isBilled, ← first, there]
        rfl
      · rw [Document.isBilled, ← second, there, Option.isSome_some, Bool.or_true]

/-- The billing block of a volume without faults has its form. -/
theorem Volume.blocks {resource : Resource} (sound : schema.faults resource.attributes = []) :
    Blocks blockForm resource (billingBlock resource) := by
  rcases paidPeriod_of_sound ⟨fun _ => rfl, fun _ => rfl⟩ sound with
    ⟨⟨message, failed⟩, unset⟩ | ⟨unit, count, known, paidFor, read⟩
  · exact .inl ⟨⟨message, by rw [billingBlock, failed]; rfl⟩, unset⟩
  · obtain ⟨code, coded⟩ := exists_periodCode known
    obtain ⟨made, built, unitShown, countShown⟩ := billingBlock_of_period read coded
    exact .inr ⟨unit, count, made, _, paidFor, built, congrArg (Option.map _) coded, unitShown,
      countShown⟩

/-- The billing block of an instance without faults has its form. -/
theorem RocketMq.blocks {resource : Resource} (sound : schema.faults resource.attributes = []) :
    Blocks blockForm resource (billingBlock resource) := by
  -- The unit is written by its name, so it needs no code.
  rcases paidPeriod_of_sound ⟨fun _ => rfl, fun _ => rfl⟩ sound with
    ⟨⟨message, failed⟩, unset⟩ | ⟨unit, count, -, paidFor, read⟩
  · exact .inl ⟨⟨message, by rw [billingBlock, failed]; rfl⟩, unset⟩
  · obtain ⟨made, built, unitShown, countShown⟩ := billingBlock_of_period read
    exact .inr ⟨unit, count, made, _, paidFor, built, rfl, unitShown, countShown⟩

/-- A volume is charged for when the resource is prepaid. -/
theorem Volume.charges {resource : Resource} (sound : schema.faults resource.attributes = []) :
    Charges kind resource (isPrepaid resource) (kind.body .create resource) := by
  -- The block is set in the object that the schema gives.
  obtain ⟨fields, base, plain⟩ :=
    exists_object_unbilled (show kind ∈ kinds by simp [kinds]) .create resource
  have built : kind.body .create resource = if isPrepaid resource then
      (billingBlock resource).map fun block => some ((Document.object fields).set "bssParam" block)
      else .ok (some (.object fields)) := by
    rw [← base]
    simp only [kind, body]
    split
    · cases billingBlock resource <;> rfl
    · rfl
  rw [built]
  exact charges_of_blocks rfl (.inl rfl) plain (Volume.blocks sound)

/-- An instance is charged for when the resource is prepaid. -/
theorem RocketMq.charges {resource : Resource} (sound : schema.faults resource.attributes = []) :
    Charges kind resource (isPrepaid resource) (kind.body .create resource) := by
  -- The same object has the name of the engine set first, which is no block.
  obtain ⟨fields, base, bare⟩ :=
    exists_object_unbilled (show kind ∈ kinds by simp [kinds]) .create resource
  let named := Entries.insert "engine" (.string engine) fields
  have plain : (Document.object named).isBilled = false :=
    (Document.isBilled_set fields (by decide) (.string engine)).trans bare
  have built : kind.body .create resource = if isPrepaid resource then
      (billingBlock resource).map fun block => some ((Document.object named).set "bss_param" block)
      else .ok (some (.object named)) := by
    have own : (Body.ofSchema schema .create resource).set "engine" (.string engine) =
        .object named := congrArg (Document.set · "engine" (.string engine)) base
    simp only [kind, body, own]
    split
    · cases billingBlock resource <;> rfl
    · rfl
  rw [built]
  exact charges_of_blocks rfl (.inr rfl) plain (RocketMq.blocks sound)

/-- What is left out of the creation of a load balancer makes no difference to the billing block. -/
theorem LoadBalancer.isBilled_createBody (d : Document) :
    (createBody d).isBilled = d.isBilled := by
  -- What is set in it is no billing block, and only objects are changed.
  cases d with
  | object fields =>
    simp only [createBody]
    split
    · exact Document.isBilled_set fields (by decide) _
    · rfl
  | null | bool | number | string | array => rfl

/-- An address group is never charged for. -/
theorem IpGroup.exists_body {resource : Resource} (sound : schema.faults resource.attributes = []) :
    ∃ built, kind.body .create resource = .ok (some built) ∧ built.isBilled = false := by
  -- The addresses can be read, and the body is an object of its own with no block in it.
  obtain ⟨texts, all⟩ := addresses_of_sound sound
  refine ⟨_, by simp only [kind, body, all]; rfl, ?_⟩
  rw [Document.isBilled, Body.get?_ofBody_eq, Body.get?_ofBody_eq]
  rfl

end Catalogue

namespace Engine

variable {σ : Type} {e : Engine σ} {wanted : Resource}

/-- An engine takes nothing to be prepaid if its kind has no billing terms. -/
theorem isPrepaid_of_unpriced (unpriced : e.blueprint.billing = none) (attributes : Attributes) :
    e.isPrepaid attributes = false := by
  -- Without terms there is no attribute to look at.
  rw [isPrepaid, unpriced]

/-- An engine and the bodies of the catalogue decide alike whether a resource is prepaid, if the
terms of the kind name the attribute that the bodies read. -/
theorem isPrepaid_eq {terms : BillingTerms} (priced : e.blueprint.billing = some terms)
    (mode : terms.modeAttribute = "charging_mode") (resource : Resource) :
    e.isPrepaid resource.attributes = Catalogue.isPrepaid resource := by
  -- Both look at the same attribute for the same value.
  rw [isPrepaid, priced]
  dsimp only
  rw [mode]
  rfl

/-- Building the body of a creation in the catalogue charges for a resource without faults exactly
when the engine takes it to be prepaid. -/
theorem charges (listed : e.kind ∈ Catalogue.kinds) {resource : Resource}
    (sound : e.kind.schema.faults resource.attributes = []) :
    Catalogue.Charges e.kind resource (e.isPrepaid resource.attributes)
      (e.kind.body .create resource) := by
  have unbilled := Catalogue.ofSchema_unbilled listed .create resource
  -- Only two of the kinds have terms, and their bodies read the attribute that these name.
  obtain ⟨kind, remote, billing, params, timeouts⟩ := e
  dsimp only at listed sound unbilled ⊢
  simp only [Catalogue.kinds, List.mem_cons, List.not_mem_nil, or_false] at listed
  rcases listed with rfl | rfl | rfl | rfl | rfl | rfl
  · rw [isPrepaid_of_unpriced rfl]
    exact .free unbilled
  · rw [isPrepaid_of_unpriced rfl]
    exact .free ((Catalogue.LoadBalancer.isBilled_createBody _).trans unbilled)
  · rw [isPrepaid_eq rfl rfl]
    exact Catalogue.Volume.charges sound
  · rw [isPrepaid_eq rfl rfl]
    exact Catalogue.RocketMq.charges sound
  · obtain ⟨built, body, free⟩ := Catalogue.IpGroup.exists_body sound
    rw [isPrepaid_of_unpriced rfl, body]
    exact .free free
  · rw [isPrepaid_of_unpriced rfl]
    exact .free unbilled

/-- With a project, the request of a creation in the catalogue can be formed. -/
theorem exists_request (listed : e.kind ∈ Catalogue.kinds)
    (given : e.params.contains "project_id" = true) :
    ∃ request, e.request e.blueprint.create none = .ok request := by
  -- The paths of all creations name nothing but the project.
  have projects : ∀ kind ∈ Catalogue.kinds,
      (Template.parts kind.blueprint.create.path.toList).all fun
        | .char _ => true
        | .hole name => name = "project_id" := by
    decide +kernel
  have known : ∀ name, .hole name ∈ Template.parts e.blueprint.create.path.toList →
      e.params.contains name = true := by
    intro name member
    have own := List.all_eq_true.mp (projects e.kind listed) _ member
    rw [of_decide_eq_true own]
    exact given
  obtain ⟨path, filled⟩ := Template.exists_fill known
  refine ⟨{ method := e.blueprint.create.method, path := String.ofList path
            successCodes := e.blueprint.create.successCodes, headers := e.blueprint.headers }, ?_⟩
  simp only [request, Template.resolve, filled]
  rfl

/-- With a project, a resource without faults has the request of its creation once it has the body
for that. -/
theorem createRequest_of_sound (listed : e.kind ∈ Catalogue.kinds)
    (given : e.params.contains "project_id" = true) {resource : Resource}
    (sound : e.kind.schema.faults resource.attributes = []) :
    ∃ plain, e.createRequest resource =
      (e.kind.body .create resource).map (withBody plain) := by
  -- Nothing is left that could fail but the body.
  obtain ⟨plain, formed⟩ := exists_request listed given
  refine ⟨plain, ?_⟩
  rw [createRequest, validate_eq, if_pos sound, formed]
  cases e.kind.body .create resource <;> rfl

/-- The identifier of a new object, by an order or by the answer to its creation alone. -/
def identifyBy (e : Engine σ) (ordered : Bool) (resource : Resource) (answer : Document)
    (deadline : Nat) : Run σ String := do
  let created ← answer.readText? e.blueprint.idPath
  if ordered then e.awaitOrder resource answer created deadline
  else
    match created with
    | some identifier => return identifier
    | none => Run.fail (.missingIdentifier e.blueprint.idPath "create")

/-- A creation by its request, which waits for an order or does not. -/
def createBy (e : Engine σ) (ordered : Bool) (resource : Resource) (request : Request) :
    Run σ State := do
  let start ← Run.now
  let deadline := Instant.after start e.timeouts.create
  let response ← e.remote.send request
  let identifier ← e.identifyBy ordered resource response.body deadline
  e.finish resource identifier deadline

/-- A creation waits for an order exactly if the resource is prepaid. -/
theorem create_eq_createBy {request : Request}
    (formed : e.createRequest (e.completed wanted) = .ok request) :
    e.create wanted =
      e.createBy (e.isPrepaid (e.completed wanted).attributes) (e.completed wanted) request := by
  -- The request has been formed, so what is left of making the object begins with sending it.
  rw [create_eq, createBy]
  congr 1
  funext start
  rw [createUntil, make, formed, Run.monadLift_ok_bind, Run.bind_assoc]
  rfl

/-- Without payment in advance, a creation makes no billing calls. -/
theorem billingCalls_create (unpaid : e.isPrepaid (e.completed wanted).attributes = false)
    (env : σ) (now : Nat) : Event.billingCalls (e.create wanted env now).events = [] := by
  -- Only an order or the end of a subscription takes a billing call, and neither happens.
  have makes (deadline : Nat) :
      (e.make (e.completed wanted) deadline).Does fun event => ¬event.IsBilling := by
    intro env now
    refine (e.make_obeys _ deadline env now).forall_mem (fun _ _ sends => ?_)
      fun _ _ _ identifies => ?_
    · cases sends with
      | unformed => simp
      | sent => simp [Event.IsBilling]
    · cases identifies with
      | unread | missing | named => simp
      | ordered prepaid => cases prepaid.symm.trans unpaid
  -- Behind the identifier only the removal could call the billing side, and only for what is
  -- prepaid.
  have serves (identifier : String) (event : Event)
      (serves : e.Serves (e.completed wanted) identifier event) : ¬event.IsBilling := by
    cases serves with
    | watched watch => exact watch.not_isBilling
    | removed removal =>
      cases removal with
      | deleted => exact id
      | unsubscribed prepaid => cases prepaid.symm.trans unpaid
    | tagged => exact id
  have finishes (deadline : Nat) (identifier : String) :
      (e.finish (e.completed wanted) identifier deadline).Does fun event => ¬event.IsBilling :=
    fun env now event member => serves identifier event
      (finish_serves (fun prepaid => nomatch prepaid.symm.trans unpaid) env now event member)
  rw [create_eq, Run.now_bind]
  exact Event.billingCalls_eq_nil ((makes _).bind (finishes _) env now)

/-- A creation whose request cannot be formed fails as that does, with nothing done. -/
theorem create_of_unformed {failure : Failure}
    (unformed : e.createRequest (e.completed wanted) = .error failure) (env : σ) (now : Nat) :
    e.create wanted env now = ⟨.error failure, env, 0, []⟩ := by
  -- The request is formed before anything is sent.
  rw [create_eq, Run.now_bind, createUntil, make, unformed]
  rfl

/-- A volume that is paid in advance, but not for any period. -/
def periodlessVolume : Resource := ⟨⟨"hcs_evs_volume", "data"⟩, Dict.ofList
  [ ("availability_zone", .string "az1"), ("volume_type", .string "SSD"), ("size", .int 40)
  , ("charging_mode", .string prepaid) ]⟩

end Engine

end Provision
