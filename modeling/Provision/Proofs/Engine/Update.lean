import Provision.Catalogue.Volume
import Provision.Proofs.Engine.Plan
import Provision.Proofs.Engine.Stage

/-! An accepted update carries out one stage for each group that has a change and then the tag
actions, and ends with the read that its state comes from. -/

namespace Provision.Engine

variable {σ : Type} {e : Engine σ} {current : State} {wanted : Resource}

/-- The stages that apply changed tags: first the removals, and then the additions. -/
def retagStages (e : Engine σ) (identifier : String) (current : State) (wanted : Resource)
    (changed : List String) : List Stage :=
  match e.blueprint.tagging with
  | some tagging =>
    if changed.contains tagging.name then
      let tags := Tags.diff (current.attributes.get? tagging.name) (wanted.get? tagging.name)
      e.tagStages tagging identifier "delete" tags.1 ++
        e.tagStages tagging identifier "create" tags.2
    else []
  | none => []

/-- The stages of an update: one for each group that has a changed attribute, in the order of the
kind, and then those of the tags. -/
def updateStages (e : Engine σ) (identifier : String) (current : State) (wanted : Resource)
    (changed : List String) : List Stage :=
  (e.blueprint.updateGroups.filter (·.touches changed)).map (e.groupStage identifier wanted) ++
    e.retagStages identifier current wanted changed

/-- A stage of an update is that of a group that the change touches, or has the request of a tag
action. -/
theorem of_mem_updateStages {identifier : String} {changed : List String} {stage : Stage}
    (member : stage ∈ e.updateStages identifier current wanted changed) :
    (∃ group ∈ e.blueprint.updateGroups, group.touches changed = true ∧
      stage = e.groupStage identifier wanted group) ∨
    ∃ tagging action tags, stage.request = e.tagRequest tagging identifier action tags := by
  -- The stages are those of the groups and then those of the tags, and both parts are lists.
  rcases List.mem_append.mp member with grouped | tagged
  · obtain ⟨group, touched, rfl⟩ := List.mem_map.mp grouped
    obtain ⟨listed, touches⟩ := List.mem_filter.mp touched
    exact .inl ⟨group, listed, touches, rfl⟩
  · unfold retagStages at tagged
    split at tagged
    · split at tagged
      · rcases List.mem_append.mp tagged with removed | added
        · exact .inr ⟨_, _, _, request_of_mem_tagStages removed⟩
        · exact .inr ⟨_, _, _, request_of_mem_tagStages added⟩
      · cases tagged
    · cases tagged

/-- Changed tags are applied in their stages. -/
theorem updateTags_eq (e : Engine σ) (identifier : String) (current : State) (wanted : Resource)
    (changed : List String) (deadline : Nat) :
    e.updateTags identifier current wanted changed =
      e.carryOut identifier deadline (e.retagStages identifier current wanted changed) := by
  -- Where the kind has no tags, or they do not change, there is no stage.
  unfold updateTags retagStages
  cases e.blueprint.tagging with
  | none => rfl
  | some tagging =>
    dsimp only
    split
    · exact applyTags_eq e tagging identifier _ _ deadline
    · rfl

/-- An update carries out its plan in stages. -/
theorem update_eq (e : Engine σ) (id : ResourceId) (identifier : String) (current : State)
    (wanted : Resource) : e.update id identifier current wanted = (do
      let start ← Run.now
      let changed ← e.plan identifier current wanted
      e.carryOut identifier (Instant.after start e.timeouts.update)
        (e.updateStages identifier current wanted changed)
      let state ← e.read id identifier
      return e.carryOver state wanted) := by
  -- The two parts of the stages are the groups and the tags.
  unfold update
  congr 1
  funext start
  dsimp only
  congr 1
  funext changed
  rw [updateStages, carryOut_append, Run.bind_assoc, updateGroups_eq, updateTags_eq]

/-- How an accepted update ends: with the first stage that fails, or with the read behind the last
stage, of whose state it makes its own. -/
inductive Concludes (e : Engine σ) (id : ResourceId) (identifier : String) (wanted : Resource)
    (deadline : Nat) (stages : List Stage) (sent : List Request) : Protocol State where
  | stopped {failure : Failure} {events : List Event} :
      e.CarriesOut identifier deadline stages sent (.error failure) events →
      Concludes e id identifier wanted deadline stages sent (.error failure) events
  | read {shown : Except Failure State} {changes looked : List Event} :
      e.CarriesOut identifier deadline stages sent (.ok ()) changes →
      e.Shows id identifier shown looked →
      Concludes e id identifier wanted deadline stages sent (shown.map (e.carryOver · wanted))
        (changes ++ looked)

/-- An accepted update ends one of these ways. -/
theorem update_concludes {changed : List String} (accepts : e.Accepts current wanted changed)
    (id : ResourceId) (identifier : String) (env : σ) (now : Nat) :
    let o := e.update id identifier current wanted env now
    ∃ sent, e.Concludes id identifier wanted (Instant.after now e.timeouts.update)
      (e.updateStages identifier current wanted changed) sent o.answer o.events := by
  intro o
  let deadline := Instant.after now e.timeouts.update
  let stages := e.updateStages identifier current wanted changed
  -- The plan takes neither time nor events, and the stages decide whether the object is read.
  have planned : o = (e.carryOut identifier deadline stages >>= fun _ => do
      let state ← e.read id identifier
      return e.carryOver state wanted) env now := by
    simp only [o, update_eq]
    rw [Run.now_bind, accepts.plan identifier, Run.monadLift_ok_bind]
  obtain ⟨sent, carries⟩ := e.carryOut_carriesOut identifier deadline stages env now
  refine ⟨sent, ?_⟩
  cases answered : (e.carryOut identifier deadline stages env now).answer with
  | error failure =>
    rw [planned, Run.bind_of_error answered]
    exact .stopped (answered ▸ carries)
  | ok =>
    rw [planned, Run.bind_of_ok answered, Run.bind_map]
    exact .read (answered ▸ carries) (e.read_obeys id identifier _ _)

/-- An update that ends well has sent the requests of all stages, and ends with the read that its
state comes from. -/
theorem Concludes.of_ok {id : ResourceId} {identifier : String} {deadline : Nat}
    {stages : List Stage} {sent : List Request} {state : State} {events : List Event}
    (concludes : e.Concludes id identifier wanted deadline stages sent (.ok state) events) :
    sent.map .ok = stages.map (·.request) ∧
      ∃ before reply event shown, events = before ++ [event] ∧ e.IsRead identifier reply event ∧
        e.recognise id identifier reply = .ok shown ∧ state = e.carryOver shown wanted := by
  -- An update that was stopped has failed, and so has one whose read did.
  generalize answered : (Except.ok state : Except Failure State) = answer at concludes
  cases concludes with
  | stopped => cases answered
  | @read shown changes _ carries shows =>
    cases shown with
    | error failure => cases answered
    | ok shown =>
      cases answered
      obtain ⟨reply, event, read, recognised, rfl⟩ := shows.of_ok
      exact ⟨carries.sent_of_ok, changes, reply, event, shown, rfl, read, recognised, rfl⟩

/-- The changes of an update come first, whichever way it ends. -/
theorem Concludes.changes {id : ResourceId} {identifier : String} {deadline : Nat}
    {stages : List Stage} {sent : List Request} {answer : Except Failure State}
    {events : List Event}
    (concludes : e.Concludes id identifier wanted deadline stages sent answer events) :
    ∃ result changes looked, e.CarriesOut identifier deadline stages sent result changes ∧
      events = changes ++ looked := by
  -- Nothing is looked at where a stage stopped the update.
  cases concludes with
  | stopped carries => exact ⟨_, events, [], carries, (List.append_nil events).symm⟩
  | read carries => exact ⟨_, _, _, carries, rfl⟩

/-- What happens in an update is a request of one of its stages, or part of watching the object. -/
theorem Concludes.does {id : ResourceId} {identifier : String} {deadline : Nat}
    {stages : List Stage} {sent : List Request} {answer : Except Failure State}
    {events : List Event}
    (concludes : e.Concludes id identifier wanted deadline stages sent answer events) :
    ∀ event ∈ events, e.IsWatch identifier event ∨
      ∃ stage ∈ stages, ∃ start finish request reply, stage.request = .ok request ∧
        event = .call start finish request reply := by
  -- Behind the stages there is only the read.
  cases concludes with
  | stopped carries => exact carries.does
  | read carries shows =>
    intro event member
    rcases List.mem_append.mp member with change | looked
    · exact carries.does event change
    · exact .inl (shows.isWatch event looked)

/-- What a request changes in an update: the attributes of a group that has a change, by the body
that the kind builds for them, or tags. -/
inductive Changes (e : Engine σ) (identifier : String) (wanted : Resource)
    (changed : List String) : Request → Prop where
  | group {group : UpdateGroup} {plain : Request} {body : Option Document} :
      group ∈ e.blueprint.updateGroups → group.touches changed = true →
      e.request group.endpoint (some identifier) = .ok plain →
      e.kind.body (.update group.attributes) wanted = .ok body →
      Changes e identifier wanted changed (withBody plain body)
  | tags {tagging : Tagging} {action : String} {tags : List Document} {request : Request} :
      e.tagRequest tagging identifier action tags = .ok request →
      Changes e identifier wanted changed request

/-- The request of a stage of an update changes something. -/
theorem changes_of_mem_updateStages {identifier : String} {changed : List String} {stage : Stage}
    (member : stage ∈ e.updateStages identifier current wanted changed) {request : Request}
    (formed : stage.request = .ok request) : e.Changes identifier wanted changed request := by
  -- The request of a group has a body, so both of them could be formed.
  rcases of_mem_updateStages member with ⟨group, listed, touches, rfl⟩ | ⟨_, _, _, own⟩
  · obtain ⟨plain, made, formed⟩ := exists_of_bind_eq_ok formed
    obtain ⟨body, builds, same⟩ := exists_of_bind_eq_ok formed
    cases same
    exact .group listed touches made builds
  · exact .tags (own ▸ formed)

/-- A request in an accepted update reads the object, or changes something. -/
theorem update_changes {changed : List String} (accepts : e.Accepts current wanted changed)
    {id : ResourceId} {identifier : String} {env : σ} {now start finish : Nat} {request : Request}
    {reply : Except Failure Response}
    (member : .call start finish request reply ∈
      (e.update id identifier current wanted env now).events) :
    e.IsWatch identifier (.call start finish request reply) ∨
      e.Changes identifier wanted changed request := by
  -- Of all that happens only the requests of the stages change anything.
  obtain ⟨_, concludes⟩ := update_concludes accepts id identifier env now
  refine (concludes.does _ member).imp_right ?_
  rintro ⟨stage, listed, _, _, _, _, formed, same⟩
  cases same
  exact changes_of_mem_updateStages listed formed

/-- An accepted update that ends well has sent the request of each of its stages. -/
theorem exists_call_of_update {changed : List String} (accepts : e.Accepts current wanted changed)
    {id : ResourceId} {identifier : String} {env : σ} {now : Nat} {state : State}
    (answered : (e.update id identifier current wanted env now).answer = .ok state)
    {stage : Stage} (listed : stage ∈ e.updateStages identifier current wanted changed) :
    ∃ start finish request reply, stage.request = .ok request ∧
      .call start finish request reply ∈
        (e.update id identifier current wanted env now).events := by
  -- All requests of the stages were sent then, and what was sent is among the changes.
  obtain ⟨sent, concludes⟩ := update_concludes accepts id identifier env now
  obtain ⟨result, changes, looked, carries, joined⟩ := concludes.changes
  rw [answered] at concludes
  have planned : stage.request ∈ sent.map .ok := by
    rw [concludes.of_ok.1]
    exact List.mem_map_of_mem listed
  obtain ⟨request, member, same⟩ := List.mem_map.mp planned
  obtain ⟨start, finish, reply, happened⟩ := carries.exists_call member
  exact ⟨start, finish, request, reply, same.symm, joined ▸ List.mem_append_left looked happened⟩

end Provision.Engine
