import Provision.Proofs.Engine.Life
import Provision.Proofs.Engine.Update
import Provision.Proofs.Path.Flatten
import Provision.Proofs.Value

/-! Attributes that no read shows stay in the state as they were set, so they never ask for a
change again. -/

namespace Provision

/-- Defaults leave what is set as it is. -/
theorem Schema.applyDefaults_get? (s : Schema) {attributes : Attributes} {name : String}
    {value : Value} (set : attributes.get? name = some value) :
    (s.applyDefaults attributes).get? name = some value := by
  -- Each default is only entered where nothing is set.
  rw [applyDefaults]
  generalize s.list = listed
  induction listed generalizing attributes with
  | nil => exact set
  | cons a rest ih =>
    rw [List.foldl_cons]
    refine ih ?_
    cases a.default? with
    | none => exact set
    | some default => rw [Dict.get?_insertNew, set, Option.some_or]

/-- What a change names differs. -/
theorem Change.differs_of_named {s : Schema} {wanted : Resource} {current : State}
    {names : List String} {name : String}
    (named : between s wanted current = .update names ∨ between s wanted current = .replace names)
    (member : name ∈ names) : Differs s wanted current name := by
  -- A change names the attributes that differ, or those of them that are fixed.
  have listed := changed_lists s wanted current
  have fixed := fixed_lists s wanted current
  simp only [between] at named
  split at named
  · simp at named
  · split at named
    · rcases named with update | replace
      · cases update
      · cases replace
        exact ((fixed.mem_iff name).mp member).1
    · split at named
      · simp at named
      · rcases named with update | replace
        · cases update
          exact (listed.mem_iff name).mp member
        · cases replace

namespace Engine

variable {σ : Type} {e : Engine σ} {identifier name : String} {document : Document}
  {shown : Attributes} {resource : Resource} {state : State}

/-- The tags of an object are read into the attribute of a name. -/
def ReadsTags (e : Engine σ) (name : String) : Prop :=
  ∃ tagging, e.blueprint.tagging = some tagging ∧ tagging.name = name ∧
    tagging.readPath.isSome = true

/-- An attribute is set on the remote side, and no read shows it. -/
structure IsHidden (e : Engine σ) (name : String) : Prop where
  listed : ∃ a, e.kind.schema.find? name = some a ∧ a.computed = false ∧ a.readPath = none
  untagged : ¬e.ReadsTags name

/-- What is read of an object has, under each name, what the document shows of the attribute, but
the tags are always there if they are read. -/
theorem attributesOf_get? (read : e.attributesOf document = .ok shown) (name : String) :
    (e.ReadsTags name → (shown.get? name).isSome = true) ∧
      (¬e.ReadsTags name →
        shown.get? name = (e.kind.schema.find? name).bind (Path.shown? document)) := by
  -- What the document shows is flattened first, and the tags are inserted behind that.
  obtain ⟨attributes, mapped, tagged⟩ := exists_of_bind_eq_ok read
  have plainly := Path.flatten_get? (eq_ok_of_mapError mapped) name
  cases tags : e.blueprint.tagging with
  | none =>
    rw [tags] at tagged
    cases tagged
    exact ⟨fun ⟨_, there, _⟩ => (nomatch tags.symm.trans there), fun _ => plainly⟩
  | some tagging =>
    obtain ⟨own, actionPath, readPath⟩ := tagging
    rw [tags] at tagged
    cases readPath with
    | none =>
      cases tagged
      refine ⟨?_, fun _ => plainly⟩
      rintro ⟨_, there, -, reads⟩
      cases tags.symm.trans there
      cases reads
    | some expression =>
      -- The tags come last, and in place of what was found under their name.
      obtain ⟨path, -, inserted⟩ := exists_of_bind_eq_ok tagged
      cases inserted
      rw [Dict.get?_insert]
      constructor
      · rintro ⟨_, there, rfl, -⟩
        cases tags.symm.trans there
        rw [if_pos rfl]
        rfl
      · intro plain
        rw [if_neg fun same => plain ⟨_, tags, same, rfl⟩, plainly]

/-- No read shows a hidden attribute. -/
theorem IsHidden.not_shown (hidden : e.IsHidden name)
    (read : e.attributesOf document = .ok shown) : shown.get? name = none := by
  -- Without a read path there is nothing that a document could show.
  obtain ⟨a, listed, -, unread⟩ := hidden.listed
  rw [(attributesOf_get? read name).2 hidden.untagged, listed, Option.bind_some, Path.shown?,
    unread, Option.bind_none]

/-- A hidden attribute is carried over as it is set. -/
theorem IsHidden.carried_eq (hidden : e.IsHidden name) (resource : Resource) :
    e.carried resource name = resource.get? name := by
  -- What is settable and has no read path is unread.
  obtain ⟨a, listed, settable, unread⟩ := hidden.listed
  have plain : isUnread a = true := by simp [isUnread, settable, unread]
  rw [carried, listed, Option.filter_some, if_pos plain, Option.bind_some]

/-- What is carried over where nothing is read is a hidden attribute that is set. -/
theorem hidden_of_carried {value : Value} (read : e.attributesOf document = .ok shown)
    (missing : shown.get? name = none) (carried : e.carried resource name = some value) :
    e.IsHidden name ∧ (resource.get? name).isSome = true := by
  -- Were the tags read into the attribute, the read would have shown them.
  obtain ⟨a, unread, set⟩ := Option.bind_eq_some_iff.mp carried
  obtain ⟨listed, plain⟩ := Option.filter_eq_some_iff.mp unread
  obtain ⟨noPath, settable⟩ : a.readPath = none ∧ a.computed = false := by
    simpa [isUnread] using plain
  refine ⟨⟨⟨a, listed, settable, noPath⟩, fun tagged => ?_⟩, by rw [set]; rfl⟩
  have there := (attributesOf_get? read name).1 tagged
  rw [missing] at there
  cases there

/-- A state keeps the hidden attributes that a resource sets, and has all others from the read of
the object that is the last of some events. -/
def Keeps (e : Engine σ) (resource : Resource) (identifier : String) (events : List Event)
    (state : State) : Prop :=
  ∃ shown, e.LastShows identifier events shown ∧ ∀ name,
    (e.IsHidden name → (resource.get? name).isSome = true →
      state.attributes.get? name = resource.get? name) ∧
    (¬(e.IsHidden name ∧ (resource.get? name).isSome = true) →
      state.attributes.get? name = shown.get? name)

/-- Carrying over from a resource to what was read last keeps its hidden attributes. -/
theorem carryOver_keeps {id : ResourceId} {events : List Event}
    (shows : e.LastShows identifier events shown) (resource : Resource) :
    e.Keeps resource identifier events (e.carryOver (.found id identifier shown) resource) := by
  -- Nothing is read of hidden attributes, and of all others nothing is carried over.
  have ⟨_, _, document, _, _, _, read⟩ := shows
  refine ⟨shown, shows, fun name => ⟨fun hidden _ => ?_, fun others => ?_⟩⟩
  · rw [carryOver_get?, hidden.carried_eq]
    change (shown.get? name).or _ = _
    rw [hidden.not_shown read, Option.none_or]
  · rw [carryOver_get?]
    change (shown.get? name).or _ = _
    cases there : shown.get? name with
    | some value => rfl
    | none =>
      -- A value could only come from the resource, and then the attribute would be hidden.
      cases carried : e.carried resource name with
      | none => rfl
      | some value => exact (others (hidden_of_carried read there carried)).elim

/-- A state that a creation answers keeps hidden attributes, also those that have their defaults. -/
theorem create_keeps {wanted : Resource} {env : σ} {now : Nat}
    (answered : (e.create wanted env now).answer = .ok state) :
    ∃ identifier, state.identifier = some identifier ∧ state.present = true ∧
      e.Keeps (e.completed wanted) identifier (e.create wanted env now).events state := by
  -- The identifier is the one that the last read was made with.
  obtain ⟨-, identifier, read, _, _, looked, present, rfl, suffix⟩ := create_ends answered
  obtain ⟨shown, shows, rfl⟩ := read_of_present looked present
  exact ⟨identifier, rfl, rfl, carryOver_keeps (shows.of_suffix suffix) _⟩

/-- A state that an update answers keeps hidden attributes, if the object is there. -/
theorem update_keeps {id : ResourceId} {current : State} {wanted : Resource} {env : σ} {now : Nat}
    (answered : (e.update id identifier current wanted env now).answer = .ok state)
    (present : state.present = true) :
    e.Keeps wanted identifier (e.update id identifier current wanted env now).events state := by
  -- A present state comes from a read that found the object.
  obtain ⟨read, _, _, looked, rfl, suffix⟩ := update_ends answered
  obtain ⟨shown, shows, rfl⟩ := read_of_present looked present
  exact carryOver_keeps (shows.of_suffix suffix) _

/-- A hidden attribute that is set is kept with its value. -/
theorem Keeps.get? {events : List Event} {value : Value}
    (keeps : e.Keeps resource identifier events state) (hidden : e.IsHidden name)
    (set : resource.get? name = some value) : state.attributes.get? name = some value := by
  -- Being set is all that the first half of what is kept asks for.
  obtain ⟨_, -, kept⟩ := keeps
  exact ((kept name).1 hidden (by rw [set]; rfl)).trans set

/-- A stage of an update is there for a changed attribute, which its group has or which holds the
tags. -/
inductive IsFor (e : Engine σ) (identifier : String) (state : State) (resource : Resource)
    (changed : List String) (stage : Stage) (name : String) : Prop where
  | group {group : UpdateGroup} : group ∈ e.blueprint.updateGroups → name ∈ group.attributes →
      name ∈ changed → stage = e.groupStage identifier resource group →
      IsFor e identifier state resource changed stage name
  | tags {tagging : Tagging} : e.blueprint.tagging = some tagging → tagging.name = name →
      name ∈ changed → stage ∈ e.retagStages identifier state resource changed →
      IsFor e identifier state resource changed stage name

/-- A stage is there for an attribute that changed. -/
theorem IsFor.changed {changed : List String} {stage : Stage}
    (reason : e.IsFor identifier state resource changed stage name) : name ∈ changed := by
  -- Both reasons come with the change.
  cases reason with
  | group _ _ member => exact member
  | tags _ _ member => exact member

/-- Every stage of an update is there for some changed attribute. -/
theorem exists_isFor {changed : List String} {stage : Stage}
    (planned : stage ∈ e.updateStages identifier state resource changed) :
    ∃ name, e.IsFor identifier state resource changed stage name := by
  -- A group is only updated when it is touched, and tags are only applied when they changed.
  rcases List.mem_append.mp planned with grouped | tagged
  · obtain ⟨group, touched, rfl⟩ := List.mem_map.mp grouped
    obtain ⟨listed, touches⟩ := List.mem_filter.mp touched
    obtain ⟨name, member, contained⟩ := List.any_eq_true.mp touches
    exact ⟨name, .group listed member (List.contains_iff_mem.mp contained) rfl⟩
  · have there := tagged
    unfold retagStages at tagged
    cases tags : e.blueprint.tagging with
    | none =>
      rw [tags] at tagged
      cases tagged
    | some tagging =>
      rw [tags] at tagged
      dsimp only at tagged
      split at tagged
      · rename_i contained
        exact ⟨tagging.name, .tags tags rfl (List.contains_iff_mem.mp contained) there⟩
      · cases tagged

/-- An attribute is at rest when no update from a state to a resource is about it: it is not named
by the change between them, no replacement is demanded over it, and no request is sent for it. -/
structure AtRest (e : Engine σ) (identifier : String) (state : State) (resource : Resource)
    (name : String) : Prop where
  unnamed : ∀ names, Change.between e.kind.schema resource state = .update names ∨
    Change.between e.kind.schema resource state = .replace names → name ∉ names
  undemanded : ∀ names,
    e.plan identifier state resource = .error (.requiresReplacement names) → name ∉ names
  unsent : ∀ changed, e.plan identifier state resource = .ok changed →
    ∀ stage ∈ e.updateStages identifier state resource changed,
      ¬e.IsFor identifier state resource changed stage name ∧
        ∃ other, e.IsFor identifier state resource changed stage other

/-- What does not differ is at rest. -/
theorem atRest_of_not_differs (same : ¬Differs e.kind.schema resource state name) :
    e.AtRest identifier state resource name where
  unnamed := fun _ named member => same (Change.differs_of_named named member)
  undemanded := by
    -- A plan only demands a replacement over attributes that differ.
    intro names planned member
    cases plan_eq_error_iff.mp planned with
    | fixed _ listed => exact same ((listed.mem_iff name).mp member).1
  unsent := by
    -- An accepted plan lists what differs, so no stage can be there for this attribute.
    intro changed planned stage staged
    refine ⟨fun reason => same ?_, exists_isFor staged⟩
    exact ((plan_eq_ok_iff.mp planned).listed.mem_iff name).mp reason.changed

/-- A hidden attribute that is kept does not differ from what it was set to, unless a double in
its value is no number. -/
theorem Keeps.not_differs {events : List Event} {asked : Resource}
    (keeps : e.Keeps resource identifier events state) (hidden : e.IsHidden name)
    (same : ∀ value, asked.get? name = some value → resource.get? name = some value)
    (numeric : ∀ value, asked.get? name = some value → value.IsNumeric) :
    ¬Differs e.kind.schema asked state name := by
  -- The state has the very value that is asked for, and that agrees with itself.
  intro differs
  obtain ⟨value, asks, unequal⟩ := differs.unequal
  have kept := keeps.get? hidden (same value asks)
  have equal := value.agrees_self_iff.mpr (numeric value asks)
  rw [unequal value kept] at equal
  cases equal

/-- Where nothing differs, an update of an object that is there only reads it. -/
theorem update_of_same (id : ResourceId) (identifier : String) (present : state.present = true)
    (same : ∀ name, ¬Differs e.kind.schema resource state name) :
    e.update id identifier state resource = (do
      let read ← e.read id identifier
      return e.carryOver read resource) := by
  -- The plan lists no changes, so no group is touched and the tags are left alone.
  have accepts : e.Accepts state resource [] :=
    { present
      listed := ⟨.nil, fun name => iff_of_false List.not_mem_nil (same name)⟩
      movable := fun name differs => (same name differs).elim
      valid := fun changes => (changes rfl).elim
      covered := fun name differs => (same name differs).elim }
  have untouched : e.updateStages identifier state resource [] = [] := by
    have none : e.blueprint.updateGroups.filter (·.touches []) = [] := by
      simp [UpdateGroup.touches]
    rw [updateStages, none, retagStages]
    cases e.blueprint.tagging <;> rfl
  rw [update_eq]
  funext env now
  rw [Run.now_bind, accepts.plan identifier, Run.monadLift_ok_bind, untouched, carryOut,
    Run.pure_bind]

/-- Hidden attributes never ask for a change from a state to a resource, unless a double in their
values is no number. If nothing else differs either, an update is nothing but a read. -/
structure HiddenAtRest (e : Engine σ) (identifier : String) (state : State)
    (resource : Resource) : Prop where
  atRest : ∀ name, e.IsHidden name →
    (∀ value, resource.get? name = some value → value.IsNumeric) →
    e.AtRest identifier state resource name
  again : (∀ name, e.IsHidden name →
      ∀ value, resource.get? name = some value → value.IsNumeric) →
    (∀ name, ¬e.IsHidden name → ¬Differs e.kind.schema resource state name) →
    ∀ id, e.update id identifier state resource = (do
      let read ← e.read id identifier
      return e.carryOver read resource)

/-- Hidden attributes that are kept are at rest for each resource that sets none otherwise. -/
theorem Keeps.hiddenAtRest {events : List Event} {asked : Resource}
    (keeps : e.Keeps resource identifier events state) (present : state.present = true)
    (same : ∀ name value, asked.get? name = some value → resource.get? name = some value) :
    e.HiddenAtRest identifier state asked where
  atRest := by
    intro name hidden numeric
    exact atRest_of_not_differs (keeps.not_differs hidden (same name) numeric)
  again := by
    -- With the other attributes at rest as well, there is nothing left to change.
    intro numeric others id
    refine update_of_same id identifier present fun name => ?_
    by_cases hidden : e.IsHidden name
    · exact keeps.not_differs hidden (same name) (numeric name hidden)
    · exact others name hidden

/--
Hidden attributes are in the state as they were set, and never ask for a change again.

This is so after every creation, where defaults count as set, and after every update that finds its
object there. All other attributes come from the read at the end.
-/
theorem hidden_atRest (e : Engine σ) (env : σ) (now : Nat) :
    (∀ wanted state, (e.create wanted env now).answer = .ok state →
      ∃ identifier, state.identifier = some identifier ∧ state.present = true ∧
        e.Keeps (e.completed wanted) identifier (e.create wanted env now).events state ∧
        e.HiddenAtRest identifier state wanted ∧
        e.HiddenAtRest identifier state (e.completed wanted)) ∧
    ∀ id identifier current wanted state,
      (e.update id identifier current wanted env now).answer = .ok state → state.present = true →
        e.Keeps wanted identifier (e.update id identifier current wanted env now).events state ∧
        e.HiddenAtRest identifier state wanted := by
  -- What is kept does not differ, and what does not differ is at rest.
  constructor
  · intro wanted state answered
    obtain ⟨identifier, named, present, keeps⟩ := create_keeps answered
    -- What is set without the defaults is set to the same value with them.
    have completes : ∀ name value, wanted.get? name = some value →
        (e.completed wanted).get? name = some value := fun _ _ set =>
      e.kind.schema.applyDefaults_get? set
    exact ⟨identifier, named, present, keeps, keeps.hiddenAtRest present completes,
      keeps.hiddenAtRest present fun _ _ set => set⟩
  · intro id identifier current wanted state answered present
    have keeps := update_keeps answered present
    exact ⟨keeps, keeps.hiddenAtRest present fun _ _ set => set⟩

/-- A volume that is created without a charging mode keeps the mode that it has by default, and is
not to be replaced over it. -/
theorem hidden_atRest_volume :
    let volume : Document :=
      .object
        [ ("volume_ids", .array [.string "v-1"])
        , ("volume", .object [("status", .string "available")]) ]
    let e : Engine Unit :=
      { kind := Catalogue.Volume.kind
        remote := ⟨fun _ env => ⟨.ok ⟨200, volume⟩, 0, env⟩⟩
        params := Dict.empty.insert "project_id" "p1" }
    let wanted : Resource := ⟨⟨"hcs_evs_volume", "data"⟩, Dict.ofList
      [("availability_zone", .string "az1"), ("volume_type", .string "SSD"), ("size", .int 40)]⟩
    IsFixed e.kind.schema "charging_mode" ∧ ∃ state identifier,
      (e.create wanted () 0).answer = .ok state ∧ state.identifier = some identifier ∧
      state.attributes.get? "charging_mode" = some (.string "postPaid") ∧
      e.AtRest identifier state (e.completed wanted) "charging_mode" := by
  intro volume e wanted
  have fixed : (e.kind.schema.find? "charging_mode").any (fun a =>
      a.forceNew && !a.computed && a.readPath.isNone) = true := by decide +kernel
  rw [Option.any_eq_true] at fixed
  obtain ⟨a, listed, hides⟩ := fixed
  simp only [Bool.and_eq_true, Bool.not_eq_true', Option.isNone_iff_eq_none] at hides
  obtain ⟨⟨forces, settable⟩, unread⟩ := hides
  have hidden : e.IsHidden "charging_mode" := by
    refine ⟨⟨a, listed, settable, unread⟩, ?_⟩
    rintro ⟨tagging, tags, named, -⟩
    cases tags
    exact absurd named (by decide +kernel)
  -- The mode is not in the resource but comes from the defaults of the kind.
  have set : (e.completed wanted).get? "charging_mode" = some (.string "postPaid") :=
    string?_bind_eq_some.mp (by decide +kernel)
  have ends : (e.create wanted () 0).answer.toOption.isSome = true := by decide +kernel
  obtain ⟨state, answered⟩ := exists_ok_of_isSome ends
  obtain ⟨creates, -⟩ := hidden_atRest e () 0
  obtain ⟨identifier, named, -, keeps, -, rests⟩ := creates wanted state answered
  have numeric : ∀ value, (e.completed wanted).get? "charging_mode" = some value →
      value.IsNumeric := by
    intro value there
    cases set.symm.trans there
    exact trivial
  exact ⟨⟨a, listed, forces⟩, state, identifier, answered, named, keeps.get? hidden set,
    rests.atRest "charging_mode" hidden numeric⟩

end Engine

end Provision
