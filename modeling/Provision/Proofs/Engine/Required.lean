import Provision.Proofs.Body.Extent
import Provision.Proofs.Engine.Compensate
import Provision.Proofs.Engine.Refusal

/-! What a body shows of a required attribute: a creation fills in its default, but an update does
not, and shows null where the resource leaves the attribute out. -/

namespace Provision

/-- The bodies of the requests among events; what a billing side sends in a call to it is not among
them. -/
def Event.bodies (events : List Event) : List Document :=
  events.filterMap fun
    | call _ _ request _ => request.body
    | _ => none

/-- Every body is that of a request. -/
theorem Event.exists_of_mem_bodies {events : List Event} {body : Document}
    (sent : body ∈ bodies events) :
    ∃ start finish request answer, call start finish request answer ∈ events ∧
      request.body = some body := by
  -- Only a request carries a body.
  obtain ⟨event, member, carried⟩ := List.mem_filterMap.mp sent
  cases event with
  | call => exact ⟨_, _, _, _, member, carried⟩
  | sleep | billing => cases carried

/-- A required attribute that is missing from attributes without faults has a default. -/
theorem Schema.default_of_missing {s : Schema} {attributes : Attributes}
    (sound : s.faults attributes = []) {a : Attribute} (listed : a ∈ s.list)
    (required : a.required = true) (missing : attributes.get? a.name = none) :
    a.default?.isSome = true := by
  -- The faults of what is missing are the first part of all faults.
  have checked := List.filterMap_eq_nil_iff.mp (List.append_eq_nil_iff.mp sound).1 a listed
  by_contra bare
  simp [missing?, required, Dict.contains, missing, Option.not_isSome_iff_eq_none.mp bare]
    at checked

/-- What one step of a fold sets in a dictionary is still there at the end, if all steps keep it. -/
theorem Dict.isSome_foldl {α β : Type} {step : Dict α → β → Dict α} {name : String}
    (keeps : ∀ d b, (d.get? name).isSome = true → ((step d b).get? name).isSome = true) {b : β}
    (sets : ∀ d, ((step d b).get? name).isSome = true) {steps : List β} (member : b ∈ steps)
    (d : Dict α) : ((steps.foldl step d).get? name).isSome = true := by
  -- The step is split from those before it and those behind it.
  obtain ⟨before, after, rfl⟩ := List.append_of_mem member
  rw [List.foldl_append, List.foldl_cons]
  exact List.foldlRecOn after step (sets _) fun d set b _ => keeps d b set

/-- With the defaults filled in, nothing is missing that has one. -/
theorem Schema.isSome_applyDefaults (s : Schema) (attributes : Attributes) {a : Attribute}
    (listed : a ∈ s.list) (default : a.default?.isSome = true) :
    ((s.applyDefaults attributes).get? a.name).isSome = true := by
  -- A step never unsets anything, and the one for the attribute sets it if nothing else has.
  refine Dict.isSome_foldl (fun set other there => ?_) (fun set => ?_) listed attributes
  · split
    · simp [Dict.get?_insertNew, there]
    · exact there
  · obtain ⟨value, given⟩ := Option.isSome_iff_exists.mp default
    simp [given, Dict.get?_insertNew]

namespace Body

/-- At the position of the request key of a required attribute stands null exactly when the
attribute is included, but not set to anything that a document can show. -/
theorem at?_ofSchema_eq_null_iff {s : Schema} (apart : s.KeysApart) {purpose : Purpose}
    {resource : Resource} {a : Attribute} (listed : a ∈ s.list) (required : a.required = true)
    {key : String} (keyed : a.requestKey = some key)
    (finite : ∀ value, resource.get? a.name = some value → value.IsFinite) :
    (ofSchema s purpose resource).at? (position key) = some .null ↔
      Includes purpose a.name ∧ resource.get? a.name = none := by
  -- What is not included has nothing there, not even null.
  by_cases included : Includes purpose a.name
  · rw [at?_ofSchema apart purpose resource listed keyed (takes_iff.mpr included), required]
    cases set : resource.get? a.name with
    | none => simp [FieldValue.ofAttribute, FieldValue.shown?, FieldValue.render, included]
    | some value =>
      -- What is set shows as itself, and a finite double is not null.
      have shows := FieldValue.render_ofValue_ne_none value
      have proper : (FieldValue.ofValue value).render ≠ some .null := fun null =>
        (FieldValue.render_ofValue_eq_null_iff value).mp null (finite value set).self
      obtain ⟨shown, rendered⟩ := Option.ne_none_iff_exists'.mp shows
      rw [rendered] at proper
      simp only [FieldValue.ofAttribute, FieldValue.shown?, rendered, Option.some_or]
      simpa using proper
  · rw [at?_ofSchema_of_not_includes apart resource listed keyed included]
    simp [included]

end Body

namespace Engine

variable {σ : Type} {e : Engine σ} {identifier : String} {resource : Resource} {body : Document}

/-- A request to an endpoint has no body of itself. -/
theorem body_of_request {endpoint : Endpoint} {target : Option String} {request : Request}
    (formed : e.request endpoint target = .ok request) : request.body = none := by
  -- A body is only added later.
  obtain ⟨_, -, same⟩ := exists_of_bind_eq_ok formed
  cases same
  rfl

/-- A request that is given a body or none has just that. -/
theorem body_withBody {endpoint : Endpoint} {target : Option String} {request : Request}
    (formed : e.request endpoint target = .ok request) (body : Option Document) :
    (withBody request body).body = body := by
  cases body with
  | none => exact body_of_request formed
  | some body => rfl

/-- The request of a creation has the body that the kind builds for a resource without faults. -/
theorem body_of_createRequest {request : Request}
    (formed : e.createRequest resource = .ok request) :
    e.kind.schema.faults resource.attributes = [] ∧
      e.kind.body .create resource = .ok request.body := by
  -- The resource is checked, then the request is formed, and then the body is built.
  obtain ⟨_, valid, formed⟩ := exists_of_bind_eq_ok formed
  obtain ⟨plain, made, formed⟩ := exists_of_bind_eq_ok formed
  obtain ⟨body, built, same⟩ := exists_of_bind_eq_ok formed
  cases same
  rw [body_withBody made, built]
  rw [validate_eq] at valid
  split at valid
  · rename_i sound
    exact ⟨sound, rfl⟩
  · cases valid

/-- The request of a tag action has the body of that. -/
theorem body_of_tagRequest {tagging : Tagging} {action : String} {tags : List Document}
    {request : Request} (formed : e.tagRequest tagging identifier action tags = .ok request) :
    request.body = some (tagBody action tags) := by
  -- It is added in the last step.
  obtain ⟨_, -, same⟩ := exists_of_bind_eq_ok formed
  cases same
  rfl

/-- Nothing is sent to watch an object but requests without a body. -/
theorem IsWatch.body_eq_none {start finish : Nat} {request : Request}
    {answer : Except Failure Response}
    (watch : e.IsWatch identifier (.call start finish request answer)) : request.body = none := by
  -- The request is that of a read.
  rcases watch with ⟨_, _, _, _, formed, same⟩ | ⟨_, _, same⟩
  · cases same
    exact body_of_request formed
  · cases same

/-- A creation sends the body that the kind builds for the resource with its defaults, if that has
no faults, and the bodies of tag actions. -/
theorem create_bodies {wanted : Resource} {env : σ} {now : Nat}
    (sent : body ∈ Event.bodies (e.create wanted env now).events) :
    (e.kind.schema.faults (e.completed wanted).attributes = [] ∧
      e.kind.body .create (e.completed wanted) = .ok (some body)) ∨
    ∃ action tags, body = tagBody action tags := by
  obtain ⟨start, finish, request, answer, member, carried⟩ := Event.exists_of_mem_bodies sent
  rw [create_eq, Run.now_bind] at member
  let deadline := Instant.after now e.timeouts.create
  -- Apart from the removal of what has to be compensated for, a creation makes progress only.
  have acts : e.IsProgress (e.completed wanted) (.call start finish request answer) ∨
      ∃ identifier, e.IsRemoval (e.completed wanted) identifier
        (.call start finish request answer) := by
    by_cases condemned : ∃ identifier failure,
        e.Condemns (e.completed wanted) deadline env now identifier failure
    · obtain ⟨identifier, failure, condemns⟩ := condemned
      obtain ⟨-, before, last, events, removal, progress⟩ := condemns.createUntil
      rw [events] at member
      rcases List.mem_append.mp member with early | final
      · exact .inl (progress _ early)
      · exact .inr ⟨identifier, List.mem_singleton.mp final ▸ removal⟩
    · exact .inl (createUntil_isProgress
        (fun identifier failure condemns => condemned ⟨identifier, failure, condemns⟩) _ member)
  -- Of all these requests only two kinds have a body.
  rcases acts with progress | ⟨_, removal⟩
  · cases progress with
    | made formed =>
      obtain ⟨sound, built⟩ := body_of_createRequest formed
      exact .inl ⟨sound, carried ▸ built⟩
    | sought _ looks =>
      rcases looks with ⟨_, _, _, _, _, formed, same⟩ | ⟨_, _, same⟩
      · cases same
        obtain ⟨_, -, looked⟩ := request_of_lookupRequest formed
        rw [body_of_request looked] at carried
        cases carried
      · cases same
    | watched watch =>
      rw [watch.body_eq_none] at carried
      cases carried
    | tagged _ formed =>
      rw [body_of_tagRequest formed] at carried
      cases carried
      exact .inr ⟨_, _, rfl⟩
  · -- A removal by request has no body either.
    cases removal with
    | deleted _ formed =>
      rw [body_of_request formed] at carried
      cases carried

/-- An update sends the bodies that the kind builds for groups of a resource without faults, and the
bodies of tag actions. -/
theorem update_bodies {id : ResourceId} {current : State} {wanted : Resource} {env : σ}
    {now : Nat}
    (sent : body ∈ Event.bodies (e.update id identifier current wanted env now).events) :
    (e.kind.schema.faults wanted.attributes = [] ∧ ∃ group ∈ e.blueprint.updateGroups,
      e.kind.body (.update group.attributes) wanted = .ok (some body)) ∨
    ∃ action tags, body = tagBody action tags := by
  -- A rejected update sends nothing, and of an accepted one only the changes have bodies.
  obtain ⟨start, finish, request, answer, member, carried⟩ := Event.exists_of_mem_bodies sent
  -- A read has no body, so what was sent is a change.
  have watched (watch : e.IsWatch identifier (.call start finish request answer)) : False := by
    rw [watch.body_eq_none] at carried
    cases carried
  rcases e.accepts_or_rejects identifier current wanted with ⟨changed, accepts⟩ | ⟨_, rejects⟩
  · rcases update_changes accepts member with watch | changes
    · exact (watched watch).elim
    · cases changes with
      | @group group plain built grouped touches made builds =>
        rw [body_withBody made] at carried
        exact .inl ⟨accepts.sound_of_touches touches, group, grouped, carried ▸ builds⟩
      | tags formed =>
        rw [body_of_tagRequest formed] at carried
        cases carried
        exact .inr ⟨_, _, rfl⟩
  · rw [rejects.update] at member
    cases member

/-- A tag action has no null at any position. -/
theorem tagBody_at?_ne_null {path : List String} (further : path ≠ []) (action : String)
    (tags : List Document) : (tagBody action tags).at? path ≠ some .null := by
  -- Such a body has two fields, and neither of them is an object.
  have leaf {d : Document} (rest : List String) (plain : ∀ key, d.get? key = none)
      (proper : d ≠ .null) : d.at? rest ≠ some .null := by
    cases rest with
    | nil => simpa [Document.at?] using proper
    | cons key rest => simp [Document.at?, plain]
  -- The first key leads to one of the fields or to nothing.
  cases path with
  | nil => exact absurd rfl further
  | cons key rest =>
    simp only [tagBody, Document.at?, Document.get?, Entries.get?]
    split
    · exact leaf rest (fun _ => rfl) (by simp)
    · split
      · exact leaf rest (fun _ => rfl) (by simp)
      · simp

/--
A creation never sends null for a required attribute, but an update does for one that is left out.

This is about a kind whose bodies come from its schema, with request keys that are apart, and about
attributes that are not set to a double that is infinite or not a number. A creation fills in the
defaults before it builds the body. An update builds the body of each group from the resource as it
is, so a required attribute of the group that the resource leaves to its default shows as null.
-/
theorem required_null_iff (driven : e.kind.IsSchemaDriven) (apart : e.kind.schema.KeysApart)
    {a : Attribute} (listed : a ∈ e.kind.schema.list) (required : a.required = true) {key : String}
    (keyed : a.requestKey = some key) (wanted : Resource) (env : σ) (now : Nat) (body : Document) :
    ((∀ value, (e.completed wanted).get? a.name = some value → value.IsFinite) →
      body ∈ Event.bodies (e.create wanted env now).events →
      body.at? (Body.position key) ≠ some .null) ∧
    ∀ id identifier current,
      (∀ value, wanted.get? a.name = some value → value.IsFinite) →
      body ∈ Event.bodies (e.update id identifier current wanted env now).events →
      (body.at? (Body.position key) = some .null ↔
        wanted.get? a.name = none ∧ a.default?.isSome = true ∧
          ∃ group ∈ e.blueprint.updateGroups, a.name ∈ group.attributes ∧
            body = Body.ofSchema e.kind.schema (.update group.attributes) wanted) := by
  -- A creation sends one body of the schema, and the rest are tag actions.
  constructor
  · intro finite sent
    rcases create_bodies sent with ⟨sound, built⟩ | ⟨action, tags, rfl⟩
    · rw [driven] at built
      cases built
      rw [ne_eq, Body.at?_ofSchema_eq_null_iff apart listed required keyed finite]
      rintro ⟨-, missing⟩
      -- What is missing has a default, and that has been filled in.
      have default := Schema.default_of_missing sound listed required missing
      have filled := e.kind.schema.isSome_applyDefaults wanted.attributes listed default
      have same : (e.kind.schema.applyDefaults wanted.attributes).get? a.name = none := missing
      rw [same] at filled
      cases filled
    · exact tagBody_at?_ne_null (Body.position_ne_nil key) action tags
  · intro id identifier current finite sent
    constructor
    · -- Null in an update comes from a group that has the attribute.
      intro null
      rcases update_bodies sent with ⟨sound, group, grouped, built⟩ | ⟨action, tags, rfl⟩
      · rw [driven] at built
        cases built
        obtain ⟨included, missing⟩ :=
          (Body.at?_ofSchema_eq_null_iff apart listed required keyed finite).mp null
        have default := Schema.default_of_missing sound listed required missing
        exact ⟨missing, default, group, grouped, included, rfl⟩
      · exact absurd null (tagBody_at?_ne_null (Body.position_ne_nil key) action tags)
    · rintro ⟨missing, -, group, -, included, rfl⟩
      exact (Body.at?_ofSchema_eq_null_iff apart listed required keyed finite).mpr
        ⟨included, missing⟩

/-- The schema of disks with a required size, which may be left to its default. -/
def diskSchema : Schema :=
  .ofList "hcs_disk" none
    [ { name := "name" : Attribute }.at_ "disk.name"
    , { name := "size", type := .int, required := true, default? := some (.int 40) : Attribute }.at_
        "disk.size" ]

/-- Disks whose bodies come from their schema, and which are updated in one group. -/
def diskKind : Kind where
  name := "hcs_disk"
  schema := diskSchema
  blueprint :=
    { service := "evs", idPath := "disk.id"
      create := { method := .post, path := "disks" }
      read := { method := .get, path := "disks/{id}" }
      delete := { method := .delete, path := "disks/{id}" }
      updateGroups :=
        [{ attributes := ["name", "size"], endpoint := { method := .put, path := "disks/{id}" } }] }
  body purpose resource := .ok (some (Body.ofSchema diskSchema purpose resource))

/-- Disks on a remote side that shows one disk whatever it is asked for. -/
def disks : Engine Unit where
  kind := diskKind
  remote := ⟨fun _ env => ⟨.ok ⟨200, .object [("disk", .object
    [("id", .string "d-1"), ("name", .string "data"), ("size", Document.ofInt 40)])]⟩, 0, env⟩⟩

/-- A disk of a name, whose size is left to its default. -/
def disk (name : String) : Resource :=
  ⟨⟨"hcs_disk", "main"⟩, Dict.empty.insert "name" (.string name)⟩

/-- The state of a disk of the default size. -/
def diskState (name : String) : State :=
  .found ⟨"hcs_disk", "main"⟩ "d-1" (disks.completed (disk name)).attributes

/-- Such a disk does not set its size, and its name has no double in it. -/
theorem disk_finite (name other : String) (value : Value)
    (set : (disk name).get? other = some value) : value.IsFinite := by
  -- The only value that is set is the name.
  rw [disk, Resource.get?, Dict.get?_insert] at set
  split at set
  · cases set
    exact trivial
  · cases set

/-- The size is a required attribute of disks with a request key of its own. -/
theorem disk_size : diskKind.schema.KeysApart ∧ ∃ a ∈ diskKind.schema.list,
    a.name = "size" ∧ a.required = true ∧ a.requestKey = some "disk.size" := by
  decide +kernel

/-- When a disk is renamed, null is sent for its size. -/
theorem disk_renamed : ∃ body ∈ Event.bodies (disks.update ⟨"hcs_disk", "main"⟩ "d-1"
      (diskState "data") (disk "archive") () 0).events,
    body.at? (Body.position "disk.size") = some .null := by
  -- The bodies of the update can be computed.
  have shown : (Event.bodies (disks.update ⟨"hcs_disk", "main"⟩ "d-1" (diskState "data")
      (disk "archive") () 0).events).any (fun body =>
        (body.at? (Body.position "disk.size")).any Document.isNull) = true := by
    decide +kernel
  obtain ⟨body, sent, null⟩ := List.any_eq_true.mp shown
  refine ⟨body, sent, ?_⟩
  cases there : body.at? (Body.position "disk.size") with
  | none => simp [there] at null
  | some size => cases size <;> simp_all [Document.isNull]

/-- A disk is created with its default size, but renamed by a body that has the size unset. -/
theorem required_null_iff_disk :
    (∃ body ∈ Event.bodies (disks.create (disk "data") () 0).events,
      body.at? (Body.position "disk.size") ≠ some .null) ∧
    ∃ body ∈ Event.bodies (disks.update ⟨"hcs_disk", "main"⟩ "d-1" (diskState "data")
        (disk "archive") () 0).events,
      ∃ group ∈ diskKind.blueprint.updateGroups, "size" ∈ group.attributes ∧
        body = Body.ofSchema diskSchema (.update group.attributes) (disk "archive") := by
  -- The size is filled in for the creation, so the values there are the name and a number.
  obtain ⟨apart, a, listed, named, required, keyed⟩ := disk_size
  have driven : diskKind.IsSchemaDriven := fun _ _ => rfl
  have finite : ∀ value, (disks.completed (disk "data")).get? a.name = some value →
      value.IsFinite := by
    intro value set
    have size : (disks.completed (disk "data")).get? "size" = some (.int 40) := rfl
    rw [named, size] at set
    cases set
    exact trivial
  -- The creation does send a body, and that of the renaming is the one with a null.
  have nonempty : Event.bodies (disks.create (disk "data") () 0).events ≠ [] := by
    rw [← List.isEmpty_eq_false_iff]
    decide +kernel
  obtain ⟨body, sent⟩ := List.exists_mem_of_ne_nil _ nonempty
  obtain ⟨created, -⟩ :=
    required_null_iff (e := disks) driven apart listed required keyed (disk "data") () 0 body
  obtain ⟨other, sentToo, null⟩ := disk_renamed
  obtain ⟨-, updated⟩ :=
    required_null_iff (e := disks) driven apart listed required keyed (disk "archive") () 0 other
  obtain ⟨-, -, group, grouped, included, same⟩ :=
    (updated _ _ _ (disk_finite "archive" a.name) sentToo).mp null
  exact ⟨⟨body, sent, created finite sent⟩, other, sentToo, group, grouped, named ▸ included, same⟩

/-- So an update of a resource that passes validation may send null for a required attribute. -/
theorem update_sends_null :
    ¬∀ (e : Engine Unit) (a : Attribute) (key : String) (wanted : Resource) (id : ResourceId)
      (identifier : String) (current : State), e.kind.IsSchemaDriven → e.kind.schema.KeysApart →
        a ∈ e.kind.schema.list → a.required = true → a.requestKey = some key →
        (∀ name value, wanted.get? name = some value → value.IsFinite) →
        ∀ body ∈ Event.bodies (e.update id identifier current wanted () 0).events,
          body.at? (Body.position key) ≠ some .null := by
  -- Renaming the disk is such an update.
  intro never
  obtain ⟨apart, a, listed, -, required, keyed⟩ := disk_size
  obtain ⟨body, sent, null⟩ := disk_renamed
  exact never disks a "disk.size" (disk "archive") _ _ (diskState "data") (fun _ _ => rfl) apart
    listed required keyed (disk_finite "archive") body sent null

end Engine

end Provision
