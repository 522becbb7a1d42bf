import Provision.Catalogue.Volume
import Provision.Proofs.Engine.Update
import Provision.Proofs.Tags

/-! An update that changes the tags of an object leaves it with the tags of the resource, where the
remote side does with them what it is asked to. -/

namespace Provision.Engine

variable {σ τ : Type} {e : Engine σ} {identifier : String} {wanted : Resource} {view : σ → τ}
  {deadline : Nat}

/-- The remote side leaves a view of its environment as it was, whatever it answers to a request. -/
def Spares (e : Engine σ) (view : σ → τ) (request : Request) : Prop :=
  ∀ env, view (e.remote.reply request env).env = view env

/-- The reads of an object spare a view. -/
def SparesReads (e : Engine σ) (identifier : String) (view : σ → τ) : Prop :=
  ∀ request, e.request e.blueprint.read (some identifier) = .ok request → e.Spares view request

/-- What begins with the read of an object preserves what that spares. -/
theorem preserves_of_read {α : Type} (spares : e.SparesReads identifier view)
    (finish : Except Failure Response → Except Failure α) :
    (do let request ← e.request e.blueprint.read (some identifier)
        let answer ← (e.remote.send request).attempt
        finish answer : Run σ α).Preserves view := by
  -- Nothing else is sent.
  intro env now
  cases formed : e.request e.blueprint.read (some identifier) with
  | error failure => rw [Run.monadLift_error_bind, Run.fail_apply]
  | ok request =>
    rw [Run.monadLift_ok_bind, Run.attempt_bind, Run.monadLift_apply]
    exact spares request formed env

/-- Reading a state preserves what reads spare. -/
theorem read_preserves (spares : e.SparesReads identifier view) (id : ResourceId) :
    (e.read id identifier).Preserves view := by
  -- A state is computed from the answer to one read.
  rw [read_eq]
  exact preserves_of_read spares _

/-- A poll preserves what reads spare. -/
theorem pollIfAny_preserves (spares : e.SparesReads identifier view) (spec : Option PollSpec)
    (deadline : Nat) : (e.pollIfAny spec identifier deadline).Preserves view := by
  -- A poll sends nothing but reads.
  have looks : (e.look identifier).Preserves view := by
    rw [look_eq]
    exact preserves_of_read spares _
  cases spec with
  | none => exact .pure () view
  | some spec =>
    refine Run.Preserves.bind ?_ fun _ => .pure () view
    exact (PollSpec.run_preserves looks spec _).bind fun report => .monadLift _ view

/-- Stages whose requests spare a view preserve it. -/
theorem carryOut_preserves (reads : e.SparesReads identifier view) {stages : List Stage}
    (spares : ∀ stage ∈ stages, ∀ request, stage.request = .ok request → e.Spares view request) :
    (e.carryOut identifier deadline stages).Preserves view := by
  -- Each stage sends its request and polls, and both leave the view alone.
  induction stages with
  | nil => exact .pure () view
  | cons stage rest ih =>
    obtain ⟨here, later⟩ := List.forall_mem_cons.mp spares
    refine Run.Preserves.bind ?_ fun _ => ih later
    intro env now
    rw [perform]
    cases formed : stage.request with
    | error failure => rw [Run.monadLift_error_bind, Run.fail_apply]
    | ok request =>
      have sends : (e.remote.send request).Preserves view := fun env _ => here request formed env
      rw [Run.monadLift_ok_bind]
      exact sends.bind (fun _ => pollIfAny_preserves reads stage.poll deadline) env now

/-- The remote side keeps the tags of an object: each of the two actions does with them what it is
named for, and nothing else that an update sends has to do with them. -/
structure KeepsTags (e : Engine σ) (tagging : Tagging) (identifier : String) (wanted : Resource)
    (tags : σ → Dict String) : Prop where
  deletes : ∀ listed request env response,
    e.tagRequest tagging identifier "delete" listed = .ok request →
    (e.remote.reply request env).answer = .ok response →
    tags (e.remote.reply request env).env = Tags.without (tags env) listed
  creates : ∀ listed request env response,
    e.tagRequest tagging identifier "create" listed = .ok request →
    (e.remote.reply request env).answer = .ok response →
    tags (e.remote.reply request env).env = Tags.setAll (tags env) listed
  reads : e.SparesReads identifier tags
  groups : ∀ group ∈ e.blueprint.updateGroups, ∀ request,
    (e.groupStage identifier wanted group).request = .ok request → e.Spares tags request

/-- The stage of a tag action has the effect of its request, also if there is nothing to act on. -/
theorem tagStages_moves {tagging : Tagging} {action : String} {listed : List Document}
    {effect : τ → List Document → τ} (nothing : ∀ before, effect before [] = before)
    (acts : ∀ request env response, e.tagRequest tagging identifier action listed = .ok request →
      (e.remote.reply request env).answer = .ok response →
      view (e.remote.reply request env).env = effect (view env) listed) (deadline : Nat) :
    (e.carryOut identifier deadline (e.tagStages tagging identifier action listed)).Moves view
      (effect · listed) := by
  -- Without tags to act on nothing is sent, and the effect of that is none.
  rw [← tagAction_eq, tagAction_eq_ite]
  split
  · rename_i empty
    rw [List.isEmpty_iff.mp empty]
    exact fun env _ _ _ => (nothing (view env)).symm
  · have sends : (do
        let request ← e.tagRequest tagging identifier action listed
        e.remote.send request : Run σ Response).Moves view (effect · listed) := by
      intro env now response answered
      cases formed : e.tagRequest tagging identifier action listed with
      | error failure =>
        rw [formed, Run.monadLift_error_bind] at answered
        cases answered
      | ok request =>
        rw [formed, Run.monadLift_ok_bind] at answered
        rw [Run.monadLift_ok_bind]
        exact acts request env response formed answered
    exact sends.bind fun _ => (Run.Preserves.pure () view).moves

/-- The stages of changed tags remove what is to be removed and then set what is to be added. -/
theorem retagStages_moves {tagging : Tagging} {tags : σ → Dict String}
    (keeps : e.KeepsTags tagging identifier wanted tags)
    (tagged : e.blueprint.tagging = some tagging) {changed : List String}
    (retags : tagging.name ∈ changed) (current : State) (deadline : Nat) :
    (e.carryOut identifier deadline (e.retagStages identifier current wanted changed)).Moves tags
      (Tags.lead (current.attributes.get? tagging.name) (wanted.get? tagging.name)) := by
  -- The removals come first, so their effect is the inner one.
  rw [retagStages, tagged]
  dsimp only
  rw [if_pos (List.contains_iff_mem.mpr retags), carryOut_append]
  have deletes (listed : List Document) :=
    tagStages_moves Tags.without_nil (keeps.deletes listed) deadline
  have creates (listed : List Document) :=
    tagStages_moves (fun _ => rfl) (keeps.creates listed) deadline
  exact (deletes _).bind fun _ => creates _

/-- So does an accepted update that changes tags. -/
theorem update_moves {tagging : Tagging} {tags : σ → Dict String}
    (keeps : e.KeepsTags tagging identifier wanted tags)
    (tagged : e.blueprint.tagging = some tagging) {current : State} {changed : List String}
    (accepts : e.Accepts current wanted changed) (retags : tagging.name ∈ changed)
    (id : ResourceId) : (e.update id identifier current wanted).Moves tags
      (Tags.lead (current.attributes.get? tagging.name) (wanted.get? tagging.name)) := by
  intro env now state answered
  let deadline := Instant.after now e.timeouts.update
  -- The groups come before the tags and the read behind them, and neither has to do with tags.
  have groups : (e.carryOut identifier deadline
      ((e.blueprint.updateGroups.filter (·.touches changed)).map
        (e.groupStage identifier wanted))).Preserves tags := by
    refine carryOut_preserves keeps.reads fun stage staged request formed => ?_
    obtain ⟨group, touched, rfl⟩ := List.mem_map.mp staged
    exact keeps.groups group (List.mem_of_mem_filter touched) request formed
  have ends : (e.read id identifier >>= fun read =>
      (pure (e.carryOver read wanted) : Run σ State)).Preserves tags :=
    (read_preserves keeps.reads id).bind fun read => .pure (e.carryOver read wanted) tags
  have stages := groups.moves.bind fun _ =>
    retagStages_moves keeps tagged retags current deadline
  rw [← carryOut_append] at stages
  rw [update_eq, Run.now_bind, accepts.plan identifier, Run.monadLift_ok_bind] at answered ⊢
  exact (stages.bind fun _ => ends.moves) env now state answered

/--
Tags change by what is removed and what is added, and an update that changes them gets them right.

The two lists lead from the old tags to the new ones, and have no tag in them that stays. Tags of
texts are read as they were sent. If the remote side does what the two actions are named for, starts
with the tags of the state and changes them by nothing else that the update sends, then it ends with
the tags of the resource whenever the update that changes them answers.
-/
theorem tags_reconciled :
    (∀ old new, Tags.IsDifference old new (Tags.diff old new).1 (Tags.diff old new).2) ∧
    (∀ tags, Tags.IsTextual tags → Tags.parse (Tags.build tags) = Tags.entriesOf tags ∧
      ∀ key, (Tags.entriesOf tags).get? key = ((Tags.textsOf tags).get? key).map .string) ∧
    ∀ {σ : Type} (e : Engine σ) (tagging : Tagging) (tags : σ → Dict String) (id : ResourceId)
      (identifier : String) (current : State) (wanted : Resource) (env : σ) (now : Nat)
      (state : State),
      e.blueprint.tagging = some tagging → e.KeepsTags tagging identifier wanted tags →
      tags env = Tags.textsOf (current.attributes.get? tagging.name) →
      Differs e.kind.schema wanted current tagging.name →
      (e.update id identifier current wanted env now).answer = .ok state →
      tags (e.update id identifier current wanted env now).env =
        Tags.textsOf (wanted.get? tagging.name) := by
  -- The first two parts are about tags alone, and the third is about updates.
  refine ⟨Tags.diff_isDifference, fun tags textual =>
    ⟨Tags.parse_build textual, Tags.get?_entriesOf textual⟩, ?_⟩
  intro σ e tagging tags id identifier current wanted env now state tagged keeps starts differs
    answered
  -- The plan has to be accepted, and then it names the tags.
  cases planned : e.plan identifier current wanted with
  | error failure =>
    rw [update_eq, Run.now_bind, planned, Run.monadLift_error_bind] at answered
    cases answered
  | ok changed =>
    have accepts := plan_eq_ok_iff.mp planned
    have retags : tagging.name ∈ changed := (accepts.listed.mem_iff tagging.name).mpr differs
    rw [update_moves keeps tagged accepts retags id env now state answered, starts]
    exact (Tags.diff_isDifference _ _).leads

/-- What becomes of tags by the body of a request: a tag action does what it is named for. -/
def actOn (tags : Dict String) (body : Document) : Dict String :=
  match (body.get? "action").bind Document.string?, (body.get? "tags").bind Document.array? with
  | some "delete", some listed => Tags.without tags listed
  | some "create", some listed => Tags.setAll tags listed
  | _, _ => tags

/-- A remote side that keeps the tags of an object, and answers every request with its document. -/
def tagKeeper (document : Document) : Remote (Dict String) where
  reply request tags := ⟨.ok ⟨200, document⟩, 0, request.body.elim tags (actOn tags)⟩

/-- Such a remote side keeps the tags if no update group has an action in its body. -/
theorem tagKeeper_keepsTags {document : Document} {e : Engine (Dict String)}
    (keeper : e.remote = tagKeeper document) (tagging : Tagging)
    (plain : ∀ group ∈ e.blueprint.updateGroups, ∀ request,
      (e.groupStage identifier wanted group).request = .ok request →
      ∀ body ∈ request.body, body.get? "action" = none) :
    e.KeepsTags tagging identifier wanted id where
  -- The keeper looks at the body of a request and at nothing else.
  deletes := by
    intro listed request tags response formed _
    obtain ⟨_, -, same⟩ := exists_of_bind_eq_ok formed
    cases same
    rw [keeper]
    rfl
  creates := by
    intro listed request tags response formed _
    obtain ⟨_, -, same⟩ := exists_of_bind_eq_ok formed
    cases same
    rw [keeper]
    rfl
  reads := by
    intro request formed tags
    obtain ⟨_, -, same⟩ := exists_of_bind_eq_ok formed
    cases same
    rw [keeper]
    rfl
  groups := by
    intro group listed request formed tags
    rw [keeper]
    -- Only a body with an action would have an effect, and that of a group has none.
    cases body : request.body with
    | none => simp [tagKeeper, body]
    | some sent => simp [tagKeeper, body, actOn, plain group listed request formed sent body]

/-- A volume that is renamed, and has one tag changed and one added, ends up with the new tags. -/
theorem tags_reconciled_volume :
    let volume : Document := .object [("volume", .object [("status", .string "available")])]
    let e : Engine (Dict String) :=
      { kind := Catalogue.Volume.kind
        remote := tagKeeper volume
        params := Dict.empty.insert "project_id" "p1" }
    let id : ResourceId := ⟨"hcs_evs_volume", "data"⟩
    let settings (name : String) (tags : List (String × Value)) : Attributes := Dict.ofList
      [ ("availability_zone", .string "az1"), ("volume_type", .string "SSD")
      , ("name", .string name), ("size", .int 40), ("tags", .map tags) ]
    let current : State := .found id "v-1"
      (settings "data" [("env", .string "dev"), ("team", .string "net")])
    let wanted : Resource := ⟨id, settings "archive"
      [("env", .string "prod"), ("owner", .string "ops"), ("team", .string "net")]⟩
    let o := e.update id "v-1" current wanted (Dict.ofList [("env", "dev"), ("team", "net")]) 0
    Tags.IsTextual (wanted.get? "tags") ∧
      Tags.parse (Tags.build (wanted.get? "tags")) = Tags.entriesOf (wanted.get? "tags") ∧
      o.answer.toOption.isSome = true ∧
      o.env = Dict.ofList [("env", "prod"), ("owner", "ops"), ("team", "net")] := by
  intro volume e id settings current wanted o
  have textual : Tags.IsTextual (wanted.get? "tags") := by decide +kernel
  -- The tags differ besides the name, so both a group and the tags are updated.
  have accepts : e.Accepts current wanted ["name", "tags"] :=
    (plan_eq_ok_iff : e.plan "v-1" current wanted = _ ↔ _).mp (by decide +kernel)
  have differs : Differs e.kind.schema wanted current "tags" :=
    (accepts.listed.mem_iff "tags").mp (by decide)
  have plain : ∀ group ∈ e.blueprint.updateGroups,
      ((e.groupStage "v-1" wanted group).request.toOption.bind (·.body)).all
        (fun body => (body.get? "action").isNone) = true := by
    decide +kernel
  -- What a group sends has no action, so the keeper leaves its tags alone then.
  have keeps : e.KeepsTags
      { actionPath := s!"v2/{Catalogue.project}/cloudvolumes/{Catalogue.object}/tags/action" }
      "v-1" wanted fun tags => tags := by
    refine tagKeeper_keepsTags rfl _ fun group listed request formed body sent => ?_
    have actionless := plain group listed
    rw [formed] at actionless
    change request.body.all _ = true at actionless
    rw [Option.mem_def.mp sent] at actionless
    exact Option.isNone_iff_eq_none.mp actionless
  -- The update succeeds, and then the tags that are kept are those that are wanted.
  have ends : o.answer.toOption.isSome = true := by decide +kernel
  obtain ⟨state, answered⟩ := exists_ok_of_isSome ends
  obtain ⟨-, readBack, leads⟩ := tags_reconciled
  refine ⟨textual, (readBack _ textual).1, ends, ?_⟩
  refine (leads e _ _ id "v-1" current wanted _ 0 state rfl keeps ?_ differs answered).trans ?_
  · decide +kernel
  · decide +kernel

end Provision.Engine
