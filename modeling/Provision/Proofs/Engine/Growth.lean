import Provision.Proofs.Engine.Required

/-! A volume grows by an order of its own, which pays for itself only if the wanted resource says
once more how the volume is charged. -/

namespace Provision

/-- Values that agree have the same text, if any. -/
theorem Value.string?_eq_of_agrees {value other : Value} (agrees : value.agrees other = true) :
    value.string? = other.string? := by
  -- Values of two sorts do not agree, and texts agree if they are the same.
  cases value <;> cases other <;> simp_all [Value.agrees, Value.string?]

namespace Catalogue.Volume

/-- A body has its order paid for without anybody's help. -/
def PaysItself (body : Document) : Prop :=
  body.at? ["bssParam", "isAutoPay"] = some (.string "true")

/-- The body by which a prepaid resource grows pays for itself. -/
theorem extendBody_paysItself {resource : Resource} (paid : isPrepaid resource = true) :
    PaysItself (extendBody resource) := by
  -- The two keys of the body differ, so each shows what its own field holds.
  rw [PaysItself, extendBody, paid, Document.at?, Body.get?_ofBody_eq]
  rfl

/-- The body by which any other resource grows is not about payment at all. -/
theorem get?_extendBody_bssParam {resource : Resource} (unpaid : isPrepaid resource = false) :
    (extendBody resource).get? "bssParam" = none := by
  -- The object about payment has nothing set then, and counts as unset itself.
  rw [extendBody, unpaid, Body.get?_ofBody_eq]
  rfl

/-- The body by which a resource grows asks for its size. -/
theorem at?_extendBody_size {resource : Resource} {size : Int64}
    (sized : resource.get? "size" = some (.int size)) :
    (extendBody resource).at? ["os-extend", "new_size"] = some (Document.ofInt size.toInt) := by
  -- The size stands under two keys that no other field has.
  rw [extendBody, sized, Document.at?, Body.get?_ofBody_eq]
  rfl

/-- The group that has the size is changed by a post, which no other group is. -/
theorem endpoint_of_mem_updateGroups : ∀ group ∈ blueprint.updateGroups,
    if "size" ∈ group.attributes
    then group.endpoint.method = .post ∧ group.endpoint.successCodes = [200, 201, 202]
    else group.endpoint.method = .put := by
  -- The groups of volumes are few enough to look at each.
  decide +kernel

/-- The size is changed by the body for growth. -/
theorem body_of_size {names : List String} (sized : "size" ∈ names) (resource : Resource) :
    kind.body (.update names) resource = .ok (some (extendBody resource)) := by
  -- The body of an update is chosen by whether it names the size.
  simp only [kind, body, List.contains_iff_mem.mpr sized, if_true]
  rfl

end Catalogue.Volume

namespace Engine

open Catalogue

variable {σ : Type} {e : Engine σ} {identifier : String} {current : State} {wanted : Resource}
  {changed : List String}

/-- A request asks an object to grow: it goes where the kind changes the size. -/
def IsGrowth (e : Engine σ) (identifier : String) (request : Request) : Prop :=
  ∃ group ∈ e.blueprint.updateGroups, "size" ∈ group.attributes ∧
    ∃ plain, e.request group.endpoint (some identifier) = .ok plain ∧
      request = withBody plain request.body

/-- A request takes the statuses of its endpoint for success. -/
theorem successCodes_of_request {endpoint : Endpoint} {target : Option String} {request : Request}
    (formed : e.request endpoint target = .ok request) :
    request.successCodes = endpoint.successCodes := by
  -- Like the method, they are taken over as they are.
  obtain ⟨_, -, same⟩ := exists_of_bind_eq_ok formed
  cases same
  rfl

/-- A request for a tag action takes two statuses for success. -/
theorem successCodes_of_tagRequest {tagging : Tagging} {action : String} {tags : List Document}
    {request : Request} (formed : e.tagRequest tagging identifier action tags = .ok request) :
    request.successCodes = [200, 204] := by
  -- The endpoint of tag actions has just these.
  obtain ⟨plain, made, same⟩ := exists_of_bind_eq_ok formed
  cases same
  exact successCodes_of_request made

/-- A body leaves the statuses that are success as they are. -/
theorem successCodes_withBody (request : Request) (body : Option Document) :
    (withBody request body).successCodes = request.successCodes := by
  cases body <;> rfl

/-- Of the requests in an accepted update of a volume, those that ask it to grow have the body for
that. -/
theorem body_of_growth (volumes : e.kind = Volume.kind)
    (accepts : e.Accepts current wanted changed) {id : ResourceId} {env : σ}
    {now start finish : Nat} {request : Request} {reply : Except Failure Response}
    (member : .call start finish request reply ∈
      (e.update id identifier current wanted env now).events)
    (growth : e.IsGrowth identifier request) :
    request.body = some (Volume.extendBody wanted) := by
  have blueprint : e.blueprint = Volume.blueprint := congrArg Kind.blueprint volumes
  -- Growth is a post, and what it takes for success tells it apart from a tag action.
  obtain ⟨method, codes⟩ :
      request.method = .post ∧ request.successCodes = [200, 201, 202] := by
    obtain ⟨group, listed, sized, plain, made, same⟩ := growth
    have endpoint := Volume.endpoint_of_mem_updateGroups group (blueprint ▸ listed)
    rw [if_pos sized, ← method_of_request made, ← successCodes_of_request made] at endpoint
    rw [same, method_withBody, successCodes_withBody]
    exact endpoint
  -- Watching is no post, and among the changes one group has the size.
  rcases update_changes accepts member with watch | changes
  · rcases watch with ⟨_, _, _, _, formed, same⟩ | ⟨_, _, same⟩
    · cases same
      rw [method_of_request formed, blueprint] at method
      cases method
    · cases same
  · cases changes with
    | @group group plain body listed _ made builds =>
      have endpoint := Volume.endpoint_of_mem_updateGroups group (blueprint ▸ listed)
      rw [method_withBody, method_of_request made] at method
      rw [body_withBody made]
      by_cases sized : "size" ∈ group.attributes
      · rw [volumes, Volume.body_of_size sized] at builds
        cases builds
        rfl
      · rw [if_neg sized, method] at endpoint
        cases endpoint
    | tags formed =>
      rw [successCodes_of_tagRequest formed] at codes
      cases codes

/-- An accepted update of a volume that changes its size and ends well has asked it to grow. -/
theorem exists_growth (volumes : e.kind = Volume.kind) (accepts : e.Accepts current wanted changed)
    (grows : "size" ∈ changed) {id : ResourceId} {env : σ} {now : Nat} {state : State}
    (answered : (e.update id identifier current wanted env now).answer = .ok state) :
    ∃ start finish request reply, .call start finish request reply ∈
      (e.update id identifier current wanted env now).events ∧ e.IsGrowth identifier request := by
  have blueprint : e.blueprint = Volume.blueprint := congrArg Kind.blueprint volumes
  obtain ⟨group, listed, sized⟩ :
      ∃ group ∈ Volume.blueprint.updateGroups, "size" ∈ group.attributes := by decide +kernel
  rw [← blueprint] at listed
  -- The change touches that group, so its stage belongs to the update, and none is left out.
  have touches : group.touches changed = true :=
    List.any_eq_true.mpr ⟨"size", sized, List.contains_iff_mem.mpr grows⟩
  have staged : e.groupStage identifier wanted group ∈
      e.updateStages identifier current wanted changed :=
    List.mem_append_left _ (List.mem_map_of_mem (List.mem_filter.mpr ⟨listed, touches⟩))
  obtain ⟨start, finish, request, reply, formed, happened⟩ :=
    exists_call_of_update accepts answered staged
  -- The request of the stage is that of the group, with its body.
  obtain ⟨plain, made, formed⟩ := exists_of_bind_eq_ok formed
  obtain ⟨body, -, same⟩ := exists_of_bind_eq_ok formed
  cases same
  refine ⟨start, finish, _, reply, happened, group, listed, sized, plain, made, ?_⟩
  rw [body_withBody made]

/-- The resource of an accepted update of a volume is prepaid exactly if the state is, and the
resource says so once more. -/
theorem Accepts.isPrepaid_eq (volumes : e.kind = Volume.kind)
    (accepts : e.Accepts current wanted changed) :
    Catalogue.isPrepaid wanted =
      (e.isPrepaid current.attributes && (wanted.get? "charging_mode").isSome) := by
  -- Both sides ask for one attribute, of the state and of the resource.
  have billing : e.blueprint.billing = some { orderPath := "order_id" } := by
    rw [blueprint, volumes]
    rfl
  rw [Catalogue.isPrepaid, Engine.isPrepaid, billing, Resource.string?]
  cases set : wanted.get? "charging_mode" with
  | none => simp
  | some mode =>
    -- What is set cannot differ from the state, as it would take a new volume.
    have known : e.kind.schema.find? "charging_mode" = some
        { name := "charging_mode", type := .chargingMode, forceNew := true
          default? := some (.string "postPaid") } := by
      rw [volumes]
      rfl
    obtain ⟨had, there, agrees⟩ := accepts.agrees_of_fixed known rfl rfl (by decide) set
    simp [there, Value.string?_eq_of_agrees agrees]

/-- The size that an accepted update of a volume changes to is an integer. -/
theorem Accepts.exists_size (volumes : e.kind = Volume.kind)
    (accepts : e.Accepts current wanted changed) (grows : "size" ∈ changed) :
    ∃ size, wanted.get? "size" = some (.int size) := by
  -- What is set has passed the check of its type.
  obtain ⟨value, set, -⟩ := ((accepts.listed.mem_iff "size").mp grows).unequal
  have sound := accepts.valid (List.ne_nil_of_mem grows)
  rw [volumes] at sound
  have checked : AttributeType.positiveInt.fault? value = none :=
    Schema.setFault?_eq_none (s := Volume.schema) sound set
  obtain ⟨size, rfl⟩ := AttributeType.exists_of_positiveInt checked
  exact ⟨size, set⟩

/--
A prepaid volume grows by an order that pays for itself only if the resource repeats the charging
mode.

What asks the volume to grow has a body with the new size. The body is built from the resource
alone, which may leave out what does not change: it has something about payment exactly if the
state is prepaid and the resource says so too. An update that ends well has asked for growth.
-/
theorem growth_paid_iff (volumes : e.kind = Volume.kind)
    (accepts : e.Accepts current wanted changed) (grows : "size" ∈ changed) (id : ResourceId)
    (identifier : String) (env : σ) (now : Nat) :
    let o := e.update id identifier current wanted env now
    (∀ start finish request reply, .call start finish request reply ∈ o.events →
      e.IsGrowth identifier request → ∃ body size, request.body = some body ∧
        wanted.get? "size" = some (.int size) ∧
        body.at? ["os-extend", "new_size"] = some (Document.ofInt size.toInt) ∧
        (e.isPrepaid current.attributes = true →
          if wanted.get? "charging_mode" = none then body.get? "bssParam" = none
          else Volume.PaysItself body) ∧
        (e.isPrepaid current.attributes = false → body.get? "bssParam" = none)) ∧
    ∀ state, o.answer = .ok state → ∃ start finish request reply,
      .call start finish request reply ∈ o.events ∧ e.IsGrowth identifier request := by
  intro o
  -- What the body says about payment depends on the resource alone, and that on the state.
  refine ⟨fun start finish request reply member growth => ?_,
    fun state answered => exists_growth volumes accepts grows answered⟩
  obtain ⟨size, sized⟩ := accepts.exists_size volumes grows
  have paid := accepts.isPrepaid_eq volumes
  refine ⟨Volume.extendBody wanted, size, body_of_growth volumes accepts member growth, sized,
    Volume.at?_extendBody_size sized, fun prepaid => ?_, fun unpaid => ?_⟩
  · -- What is prepaid pays for itself if the mode is set, and only then.
    rw [prepaid, Bool.true_and] at paid
    split
    · rename_i unset
      rw [unset] at paid
      exact Volume.get?_extendBody_bssParam paid
    · rename_i set
      exact Volume.extendBody_paysItself (paid.trans (Option.isSome_iff_ne_none.mpr set))
  · rw [unpaid, Bool.false_and] at paid
    exact Volume.get?_extendBody_bssParam paid

/-- Volumes on a remote side that shows each of them as available. -/
def availableVolumes : Engine Unit where
  kind := Volume.kind
  remote := ⟨fun _ env =>
    ⟨.ok ⟨200, .object [("volume", .object [("status", .string "available")])]⟩, 0, env⟩⟩
  params := Dict.empty.insert "project_id" "p1"

/-- A volume of a size, with a setting for how it is charged or without. -/
def sizedVolume (size : Int64) (mode : List (String × Value)) : Resource :=
  ⟨⟨"hcs_evs_volume", "data"⟩, Dict.ofList <|
    [("availability_zone", .string "az1"), ("volume_type", .string "SSD"), ("size", .int size)] ++
      mode⟩

/-- The setting of what is prepaid. -/
def prepaidMode : List (String × Value) := [("charging_mode", .string prepaid)]

/-- The state of a prepaid volume. -/
def prepaidVolume : State :=
  .found ⟨"hcs_evs_volume", "data"⟩ "v-1" (sizedVolume 40 prepaidMode).attributes

/-- The growth of a prepaid volume is accepted and ends well, whether the resource repeats the
charging mode or not. -/
theorem sizedVolume_grows (mode : List (String × Value)) (either : mode ∈ [[], prepaidMode]) :
    availableVolumes.Accepts prepaidVolume (sizedVolume 80 mode) ["size"] ∧
      ∃ state, (availableVolumes.update prepaidVolume.id "v-1" prepaidVolume
        (sizedVolume 80 mode) () 0).answer = .ok state := by
  -- There are two settings, and each update can be computed.
  have planned : ∀ mode ∈ [[], prepaidMode], availableVolumes.plan "v-1" prepaidVolume
      (sizedVolume 80 mode) = .ok ["size"] := by decide +kernel
  have ends : ∀ mode ∈ [[], prepaidMode], (availableVolumes.update prepaidVolume.id "v-1"
      prepaidVolume (sizedVolume 80 mode) () 0).answer.toOption.isSome = true := by decide +kernel
  exact ⟨plan_eq_ok_iff.mp (planned mode either), exists_ok_of_isSome (ends mode either)⟩

/-- A prepaid volume grows by an order that pays for itself if the resource repeats that it is
prepaid. -/
theorem growth_paid_iff_repeated : ∃ start finish request reply body,
    .call start finish request reply ∈ (availableVolumes.update prepaidVolume.id "v-1"
      prepaidVolume (sizedVolume 80 prepaidMode) () 0).events ∧
    request.body = some body ∧
    body.at? ["os-extend", "new_size"] = some (Document.ofInt 80) ∧ Volume.PaysItself body := by
  -- The update asks the volume to grow, and the mode is repeated.
  obtain ⟨accepts, state, answered⟩ := sizedVolume_grows prepaidMode (by simp)
  obtain ⟨bodies, asks⟩ := growth_paid_iff rfl accepts (by simp) prepaidVolume.id "v-1" () 0
  obtain ⟨start, finish, request, reply, member, growth⟩ := asks state answered
  obtain ⟨body, size, carried, sized, shown, pays, -⟩ := bodies _ _ _ _ member growth
  have set : (sizedVolume 80 prepaidMode).get? "size" = some (.int 80) := rfl
  cases set.symm.trans sized
  have repeated : (sizedVolume 80 prepaidMode).get? "charging_mode" = some (.string prepaid) := rfl
  have paid := pays rfl
  rw [repeated, if_neg (Option.some_ne_none _)] at paid
  exact ⟨start, finish, request, reply, body, member, carried, shown, paid⟩

/-- So a prepaid volume may grow by an order that says nothing about its payment. -/
theorem growth_unpaid_of_unset_mode :
    ¬∀ (e : Engine Unit) (current : State) (wanted : Resource) (changed : List String)
      (id : ResourceId) (identifier : String), e.kind = Volume.kind →
        e.Accepts current wanted changed → "size" ∈ changed →
        e.isPrepaid current.attributes = true → ∀ start finish request reply,
        .call start finish request reply ∈ (e.update id identifier current wanted () 0).events →
        e.IsGrowth identifier request → ∃ body, request.body = some body ∧
          body.at? ["bssParam", "isAutoPay"] ≠ none := by
  intro always
  obtain ⟨accepts, state, answered⟩ := sizedVolume_grows [] (by simp)
  obtain ⟨start, finish, request, reply, member, growth⟩ :=
    exists_growth rfl accepts (by simp) answered
  obtain ⟨body, carried, pays⟩ := always availableVolumes _ _ _ _ _ rfl accepts (by simp) rfl
    start finish request reply member growth
  rw [body_of_growth rfl accepts member growth] at carried
  cases carried
  -- The resource leaves the charging mode out, so its body is not about payment.
  rw [Document.at?, Volume.get?_extendBody_bssParam rfl] at pays
  exact pays rfl

end Engine

end Provision
