import Provision.Catalogue
import Provision.Proofs.Body.Placement
import Provision.Proofs.Document

/-! A body is made of what is placed in it and of nothing else: whatever stands in it lies on the
way to something that shows there, or inside it. -/

namespace Provision.Body

/-- Fields show nothing, so that an object of them is left out. -/
def AreSilent (fields : List Field) : Prop := ∀ field ∈ fields, field.shown? = none

/-- Fields are rendered to nothing exactly when they show nothing. -/
theorem renderFields_eq_nil_iff {fields : List Field} :
    FieldValue.renderFields fields = [] ↔ AreSilent fields := by
  -- Rendering keeps just what shows.
  rw [FieldValue.renderFields_eq, List.filterMap_eq_nil_iff]
  simp [AreSilent]

/-- An object is unset exactly when it has fields and these show nothing. -/
theorem render_object_eq_none_iff {fields : List Field} :
    (FieldValue.object fields).render = none ↔ fields ≠ [] ∧ AreSilent fields := by
  -- An object without fields is shown as such.
  rw [FieldValue.render, ← renderFields_eq_nil_iff]
  simp [and_comm]

/-- A field shows nothing exactly when it may be left out and its value is unset. -/
theorem shown?_eq_none_iff {field : Field} :
    field.shown? = none ↔ Slot.optional field = true ∧ field.value.render = none := by
  -- A required field shows null at least.
  obtain ⟨key, optional, value⟩ := field
  cases optional <;> simp [Field.shown?, FieldValue.shown?]

/-- Fields with a silent change inside an object among them stay silent. -/
theorem inside_silent {key : String} {change : List Field → List Field}
    (quiet : ∀ children, AreSilent children → change children ≠ [] ∧ AreSilent (change children))
    {fields : List Field} (silent : AreSilent fields) : AreSilent (inside key change fields) := by
  have unset {k : String} {children : List Field} (silent : AreSilent children) :
      Field.shown? ⟨k, true, .object (change children)⟩ = none :=
    shown?_eq_none_iff.mpr ⟨rfl, render_object_eq_none_iff.mpr (quiet children silent)⟩
  -- The object under the key is changed or added, and all fields before it stay as they are.
  fun_induction inside key change fields with
  -- An object is added that holds only what is silent.
  | case1 =>
    intro field member
    cases List.mem_singleton.mp member
    exact unset (List.forall_mem_nil _)
  -- The object that is changed was silent, and stays so.
  | case2 optional children rest =>
    obtain ⟨here, later⟩ := List.forall_mem_cons.mp silent
    obtain ⟨mayMiss, empty⟩ := shown?_eq_none_iff.mp here
    dsimp only at mayMiss empty
    subst mayMiss
    exact List.forall_mem_cons.mpr ⟨unset (render_object_eq_none_iff.mp empty).2, later⟩
  | case3 k optional children rest distinct ih =>
    obtain ⟨here, later⟩ := List.forall_mem_cons.mp silent
    exact List.forall_mem_cons.mpr ⟨here, ih later⟩
  | case4 field rest plain ih =>
    obtain ⟨here, later⟩ := List.forall_mem_cons.mp silent
    exact List.forall_mem_cons.mpr ⟨here, ih later⟩

/-- What shows nothing, placed among fields that show nothing, leaves them so. -/
theorem place_silent {value : FieldValue} {optional : Bool}
    (unset : value.shown? optional = none) {path : List String} {fields : List Field}
    (silent : AreSilent fields) : AreSilent (place value optional path fields) := by
  -- The induction is on the position: each key but the last leads into an object.
  induction path generalizing fields with
  | nil => exact silent
  | cons key rest ih =>
    cases rest with
    | nil =>
      -- At the last key a field is added that shows nothing.
      rw [place]
      intro field member
      rcases List.mem_append.mp member with earlier | last
      · exact silent field earlier
      · cases List.mem_singleton.mp last
        exact unset
    | cons next more =>
      have opened : place value optional (key :: next :: more) fields =
          inside key (place value optional (next :: more)) fields := rfl
      rw [opened]
      refine inside_silent (fun children silent => ⟨?_, ih silent⟩) silent
      exact place_ne_nil (List.cons_ne_nil next more) value optional children

/-- What a placement shows at its position, if anything. -/
def Placement.shown? (p : Placement) : Option Document := p.value.shown? p.optional

/-- Fields of placements that are not all left out show something that was placed. -/
theorem exists_shown {placements : List Placement}
    (some : FieldValue.renderFields (assemble placements) ≠ []) :
    ∃ p ∈ placements, p.shown?.isSome = true := by
  -- If nothing that was placed showed, the fields would be silent.
  by_contra none
  have unset : ∀ p ∈ placements, p.shown? = Option.none := fun p listed =>
    Option.not_isSome_iff_eq_none.mp fun shows => none ⟨p, listed, shows⟩
  refine some (renderFields_eq_nil_iff.mpr ?_)
  clear some none
  -- What is placed last leaves the fields of all that is placed before it silent.
  induction placements using List.reverseRecOn with
  | nil => exact List.forall_mem_nil _
  | append_singleton earlier last ih =>
    rw [assemble_append]
    have quiet := ih fun p member => unset p (List.mem_append_left _ member)
    exact place_silent (unset last (by simp)) quiet

/-- The entries of placements: what shows, at its position. -/
def shownEntries (placements : List Placement) : List (List String × Document) :=
  placements.filterMap fun p => p.shown?.map (p.path, ·)

/-- An entry of placements inside an object is an entry of all placements. -/
theorem mem_shownEntries_within {key : String} {placements : List Placement}
    {path : List String} {shown : Document}
    (member : (path, shown) ∈ shownEntries (within key placements)) :
    (key :: path, shown) ∈ shownEntries placements := by
  -- What is inside the object comes from a placement that goes on behind the key.
  obtain ⟨inner, inside, shows⟩ := List.mem_filterMap.mp member
  obtain ⟨p, listed, left⟩ := List.mem_filterMap.mp inside
  obtain ⟨found, shows, same⟩ := Option.map_eq_some_iff.mp shows
  cases same
  rw [(Placement.eq_of_inside? left).1] at listed
  exact List.mem_filterMap.mpr ⟨_, listed, Option.map_eq_some_iff.mpr ⟨shown, shows, rfl⟩⟩

/-- A body is made of the entries of what is placed in it. -/
theorem ofBody_isMadeOf {placements : List Placement}
    (apart : placements.Pairwise Placement.Apart) (proper : ∀ p ∈ placements, p.path ≠ []) :
    (Document.ofBody (assemble placements)).IsMadeOf (shownEntries placements) where
  shows := by
    -- What shows of a placement is found where it was placed.
    rintro ⟨path, shown⟩ member
    obtain ⟨p, listed, shows⟩ := List.mem_filterMap.mp member
    obtain ⟨_, shows, same⟩ := Option.map_eq_some_iff.mp shows
    cases same
    exact (at?_assemble apart proper listed).trans shows
  only := by
    intro keys
    -- The induction is on the keys, the first of which leads to a value or into a branch.
    induction keys generalizing placements with
    | nil =>
      intro inner led
      cases led
      exact .inr ⟨⟨_, rfl, Dict.ordered _⟩, .inl rfl⟩
    | cons key rest ih =>
      intro inner led
      obtain ⟨value, found, led⟩ := Option.bind_eq_some_iff.mp led
      -- Under the first key is a value that was placed there, or an object.
      by_cases leaf : ∃ p ∈ placements, p.path = [key]
      · obtain ⟨p, listed, path⟩ := leaf
        have stands : (Document.ofBody (assemble placements)).at? [key] = p.shown? :=
          path ▸ at?_assemble apart proper listed
        rw [Document.at?, found] at stands
        have entry : ([key], value) ∈ shownEntries placements :=
          List.mem_filterMap.mpr ⟨p, listed, by rw [← stands, path]; rfl⟩
        exact .inl ⟨_, entry, List.cons_prefix_cons.mpr ⟨rfl, List.nil_prefix⟩⟩
      · have free : ∀ p ∈ placements, p.path ≠ [key] := fun p listed path => leaf ⟨p, listed, path⟩
        have there := under_assemble apart proper key
        rw [leaves_eq_nil free, List.nil_append] at there
        rw [get?_branch there] at found
        obtain ⟨some, same⟩ := Option.ite_none_left_eq_some.mp found
        cases same
        rcases ih (within_apart apart key) within_proper inner led with
          ⟨entry, member, within⟩ | ⟨object, whole | ⟨entry, member, onward⟩⟩
        · exact .inl ⟨_, mem_shownEntries_within member, List.cons_prefix_cons.mpr ⟨rfl, within⟩⟩
        · -- The branch itself is there because something inside it shows.
          obtain ⟨p, inside, shows⟩ := exists_shown some
          obtain ⟨shown, shows⟩ := Option.isSome_iff_exists.mp shows
          have member : (p.path, shown) ∈ shownEntries (within key placements) :=
            List.mem_filterMap.mpr ⟨p, inside, by rw [shows]; rfl⟩
          rw [whole]
          exact .inr ⟨object, .inr ⟨_, mem_shownEntries_within member,
            List.cons_prefix_cons.mpr ⟨rfl, List.nil_prefix⟩⟩⟩
        · exact .inr ⟨object, .inr ⟨_, mem_shownEntries_within member,
            List.cons_prefix_cons.mpr ⟨rfl, onward⟩⟩⟩

/-- A purpose includes an attribute: a creation includes all, and an update those that it names. -/
def Includes : Purpose → String → Prop
  | .create, _ => True
  | .update names, name => name ∈ names

/-- The attributes that a purpose takes in are those that it includes. -/
theorem takes_iff {purpose : Purpose} {name : String} :
    takes purpose name = true ↔ Includes purpose name := by
  -- An update takes in an attribute when its list of names contains it.
  cases purpose with
  | create => simp [takes, Includes]
  | update names => simp [takes, Includes]

instance (purpose : Purpose) (name : String) : Decidable (Includes purpose name) :=
  decidable_of_iff _ takes_iff

/--
The entry of an attribute in a body: the document of its value under its request key, or null if it
is unset and required.
-/
def entryOf? (purpose : Purpose) (resource : Resource) (a : Attribute) :
    Option (List String × Document) :=
  a.requestKey.bind fun key =>
    if Includes purpose a.name then
      match resource.get? a.name with
      | some value => some (position key, value.toDocument)
      | none => if a.required then some (position key, .null) else none
    else none

/-- The entries of all attributes in a body. -/
def entries (s : Schema) (purpose : Purpose) (resource : Resource) :
    List (List String × Document) :=
  s.list.filterMap (entryOf? purpose resource)

/-- The entry of an attribute is what shows of its placement. -/
theorem entryOf?_eq {resource : Resource}
    (ordered : ∀ name value, resource.get? name = some value → value.IsOrdered)
    (purpose : Purpose) (a : Attribute) :
    entryOf? purpose resource a =
      (placement? resource.attributes purpose a).bind fun p => p.shown?.map (p.path, ·) := by
  -- The key is the same on both sides, and what is not included has no entry.
  rw [entryOf?, placement?, Option.bind_assoc]
  congr 1
  funext key
  by_cases included : Includes purpose a.name
  · rw [if_pos included, if_pos (takes_iff.mpr included), Option.bind_some]
    change _ = ((FieldValue.ofAttribute (resource.get? a.name)).shown? !a.required).map _
    -- A value that is set shows as its document, whether or not it may be left out.
    cases set : resource.get? a.name with
    | none => cases needed : a.required <;> rfl
    | some value =>
      rw [FieldValue.ofAttribute, FieldValue.shown?,
        FieldValue.render_ofValue value (ordered _ _ set)]
      rfl
  · rw [if_neg included, if_neg (included ∘ takes_iff.mp)]
    rfl

/-- The body that a schema gives a resource is made of the entries of the attributes. -/
theorem ofSchema_isMadeOf {s : Schema} (apart : s.KeysApart) (purpose : Purpose)
    {resource : Resource}
    (ordered : ∀ name value, resource.get? name = some value → value.IsOrdered) :
    (ofSchema s purpose resource).IsMadeOf (entries s purpose resource) := by
  -- Placements of attributes are apart because their keys are.
  have same : entries s purpose resource =
      shownEntries (s.list.filterMap (placement? resource.attributes purpose)) := by
    rw [entries, shownEntries, List.filterMap_filterMap]
    exact List.filterMap_congr fun a _ => entryOf?_eq ordered purpose a
  rw [same, ofSchema, fields_eq]
  exact ofBody_isMadeOf (placements_apart apart resource.attributes purpose) placements_proper

/-- Nothing stands at the position of a request key whose attribute is not included. -/
theorem at?_ofSchema_of_not_includes {s : Schema} (apart : s.KeysApart) {purpose : Purpose}
    (resource : Resource) {a : Attribute} (listed : a ∈ s.list) {key : String}
    (keyed : a.requestKey = some key) (excluded : ¬Includes purpose a.name) :
    (ofSchema s purpose resource).at? (position key) = none := by
  let placements := s.list.filterMap (placement? resource.attributes purpose)
  -- The body is made of the entries that show and of nothing else.
  have made : (ofSchema s purpose resource).IsMadeOf (shownEntries placements) := by
    rw [ofSchema, fields_eq]
    exact ofBody_isMadeOf (placements_apart apart resource.attributes purpose) placements_proper
  -- Anything there would belong to another attribute, whose key is apart from this one.
  have others : ∀ entry ∈ shownEntries placements,
      ¬entry.1 <+: position key ∧ ¬position key <+: entry.1 := by
    intro entry member
    obtain ⟨p, placed, shows⟩ := List.mem_filterMap.mp member
    obtain ⟨shown, -, rfl⟩ := Option.map_eq_some_iff.mp shows
    obtain ⟨b, listedToo, sent⟩ := List.mem_filterMap.mp placed
    obtain ⟨other, otherKeyed, path⟩ := path_of_placement? sent
    have different : b ≠ a := by
      rintro rfl
      rw [placement?, keyed, Option.bind_some, if_neg (excluded ∘ takes_iff.mp)] at sent
      cases sent
    rw [path]
    exact apart.of_ne listedToo listed different otherKeyed keyed
  -- What is found at the position would be within an entry, or lie on the way to one.
  refine Option.eq_none_iff_forall_ne_some.mpr fun inner led => ?_
  rcases made.only _ _ led with ⟨entry, member, within⟩ | ⟨-, whole | ⟨entry, member, onward⟩⟩
  · exact (others entry member).1 within
  · exact position_ne_nil key whole
  · exact (others entry member).2 onward

/-- At the position of a request key stands the entry of its attribute, or nothing. -/
theorem at?_position {s : Schema} (apart : s.KeysApart) (purpose : Purpose) {resource : Resource}
    (ordered : ∀ name value, resource.get? name = some value → value.IsOrdered) {a : Attribute}
    (listed : a ∈ s.list) {key : String} (keyed : a.requestKey = some key) :
    (ofSchema s purpose resource).at? (position key) =
      (entryOf? purpose resource a).map (·.2) := by
  -- What is not included is not placed, and then nothing stands at its position.
  rw [entryOf?_eq ordered, placement?, keyed, Option.bind_some]
  by_cases included : Includes purpose a.name
  · rw [at?_ofSchema apart purpose resource listed keyed (takes_iff.mpr included),
      if_pos (takes_iff.mpr included), Option.bind_some, Option.map_map]
    exact Option.map_id_apply.symm
  · rw [at?_ofSchema_of_not_includes apart resource listed keyed included,
      if_neg (included ∘ takes_iff.mp)]
    rfl

/-- Resources with the same values of all included attributes get the same body. -/
theorem ofSchema_congr (s : Schema) {purpose : Purpose} {resource other : Resource}
    (same : ∀ name, Includes purpose name → other.get? name = resource.get? name) :
    ofSchema s purpose other = ofSchema s purpose resource := by
  -- Attribute by attribute the same is placed, or nothing where it is not included.
  have placed : s.list.filterMap (placement? other.attributes purpose) =
      s.list.filterMap (placement? resource.attributes purpose) := by
    refine List.filterMap_congr fun a _ => ?_
    rw [placement?, placement?]
    congr 1
    funext key
    by_cases sent : takes purpose a.name = true
    · have value : other.attributes.get? a.name = resource.attributes.get? a.name :=
        same a.name (takes_iff.mp sent)
      rw [if_pos sent, if_pos sent, value]
    · rw [if_neg sent, if_neg sent]
  rw [ofSchema, ofSchema, fields_eq, fields_eq, placed]

/-- In all kinds of the catalogue, the request keys are apart. -/
theorem keysApart_of_mem : ∀ kind ∈ Catalogue.kinds, kind.schema.KeysApart := by
  decide +kernel

/--
The body of a schema is the one document that is made of the entries of the included attributes.

At the position of each request key stands the document of the value, or null if the value is unset
and required. Otherwise nothing stands there, and the body has no other leaves and no objects other
than those on the way to an entry. An update depends on nothing but the attributes that it names.
This takes that the request keys are apart, as they are in all kinds of the catalogue, and that maps
list their entries in key order.
-/
theorem ofSchema_eq_iff {s : Schema} (apart : s.KeysApart) (purpose : Purpose) {resource : Resource}
    (ordered : ∀ name value, resource.get? name = some value → value.IsOrdered) :
    (∀ d : Document, d = ofSchema s purpose resource ↔ d.IsMadeOf (entries s purpose resource)) ∧
    (∀ a ∈ s.list, ∀ key, a.requestKey = some key →
      (ofSchema s purpose resource).at? (position key) =
        (entryOf? purpose resource a).map (·.2)) ∧
    (∀ names other, (∀ name ∈ names, other.get? name = resource.get? name) →
      ofSchema s (.update names) other = ofSchema s (.update names) resource) ∧
    ∀ kind ∈ Catalogue.kinds, kind.schema.KeysApart := by
  -- A document made of these entries exists, namely the body, and it is the only one.
  have made := ofSchema_isMadeOf apart purpose ordered
  refine ⟨fun d => ⟨?_, fun madeToo => madeToo.unique made⟩, ?_, ?_, keysApart_of_mem⟩
  · rintro rfl
    exact made
  · intro a listed key keyed
    exact at?_position apart purpose ordered listed keyed
  · intro names other same
    exact ofSchema_congr s same

/-- An update sends a name and null for a network that is unset, and passes over all else. -/
theorem ofSchema_eq_iff_nested :
    let s : Schema := .ofList "server" none
      [ { name := "name", requestKey := some "server.name" }
      , { name := "network", required := true, requestKey := some "server.links.network" }
      , { name := "note", requestKey := some "server.meta.note" }
      , { name := "size", required := true, requestKey := some "size" } ]
    let resource : Resource := ⟨⟨"server", "front"⟩,
      (Dict.empty.insert "name" (.string "front")).insert "size" (.int 3)⟩
    let purpose := Purpose.update ["name", "network", "note"]
    entries s purpose resource =
        [(["server", "name"], .string "front"), (["server", "links", "network"], .null)] ∧
      (ofSchema s purpose resource).IsMadeOf (entries s purpose resource) ∧
      (ofSchema s purpose resource).at? ["server", "meta", "note"] = none ∧
      (ofSchema s purpose resource).at? ["size"] = none := by
  -- The keys are apart, as a short computation shows, and no value has a map in it.
  intro s resource purpose
  have apart : s.KeysApart := by decide +kernel
  have ordered : ∀ name value, resource.get? name = some value → value.IsOrdered := by
    intro name value set
    simp only [resource, Resource.get?, Dict.get?_insert] at set
    split at set
    · cases set
      exact trivial
    · obtain ⟨-, same⟩ := Option.ite_none_right_eq_some.mp set
      cases same
      exact trivial
  obtain ⟨made, stands, -⟩ := ofSchema_eq_iff apart purpose ordered
  -- The note is unset and optional, and the size is not named.
  have note : ∃ a ∈ s.list, a.requestKey = some "server.meta.note" ∧
      (entryOf? purpose resource a).map (·.2) = none := by
    decide +kernel
  have size : ∃ a ∈ s.list, a.requestKey = some "size" ∧
      (entryOf? purpose resource a).map (·.2) = none := by
    decide +kernel
  refine ⟨rfl, (made _).mp rfl, ?_, ?_⟩
  · obtain ⟨a, listed, keyed, nothing⟩ := note
    exact (stands a listed _ keyed).trans nothing
  · obtain ⟨a, listed, keyed, nothing⟩ := size
    exact (stands a listed _ keyed).trans nothing

end Provision.Body
