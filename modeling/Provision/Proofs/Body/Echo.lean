import Provision.Proofs.Body.Placement
import Provision.Proofs.Path.Flatten
import Provision.Proofs.Run

/-! A body that comes back as the document of its object is flattened to what was sent. -/

namespace Provision

/-- All request keys are dotted names. -/
def Schema.KeysNamed (s : Schema) : Prop :=
  ∀ a ∈ s.list, ∀ key ∈ a.requestKey, ∀ part ∈ Text.split '.' key.toList, Path.IsName part

instance (s : Schema) : Decidable s.KeysNamed :=
  inferInstanceAs (Decidable (∀ a ∈ s.list, ∀ key ∈ a.requestKey, ∀ part ∈ _, Path.IsName part))

/-- An attribute is found in a schema by its own name. -/
theorem Schema.find?_of_mem {s : Schema} {a : Attribute} (listed : a ∈ s.list) :
    s.find? a.name = some a := by
  -- Attributes are kept under their own names.
  obtain ⟨⟨key, _⟩, member, rfl⟩ := List.mem_map.mp listed
  have named := s.named _ member
  dsimp only at named
  exact (Entries.get?_eq_some_iff s.attributes.ordered).mpr (named ▸ member)

namespace Body

/-- What is shown of a value in a body is that value again. -/
theorem ofDocument?_shown {value : Option Value}
    (sound : ∀ set, value = some set → set.IsFinite ∧ set.IsOrdered) (optional : Bool) :
    ((FieldValue.ofAttribute value).shown? optional).bind Value.ofDocument? = value := by
  -- What is unset is left out or null, and neither has a value.
  cases value with
  | none => cases optional <;> rfl
  -- A value that is set shows as its document, and that is read back.
  | some set =>
    obtain ⟨finite, ordered⟩ := sound set rfl
    rw [FieldValue.ofAttribute, FieldValue.shown?, FieldValue.render_ofValue set ordered,
      Option.some_or, Option.bind_some, Value.ofDocument?_toDocument set finite]

/--
The body of a creation, read back as the document of the object, shows the attributes as they were.

This is about attributes that are read from the path that they are sent under. An attribute that was
not set is not found, also if null was sent for it. The values have to be finite, as others have no
document, and their maps list their entries in key order. A document is flattened unless some
attribute has a malformed read path, whatever that attribute is sent as.
-/
theorem flatten_ofSchema (s : Schema) (resource : Resource) (apart : s.KeysApart)
    (named : s.KeysNamed)
    (sound : ∀ name value, resource.get? name = some value → value.IsFinite ∧ value.IsOrdered) :
    ((∃ found, Path.flatten s (ofSchema s .create resource) = .ok found) ↔
      ∀ a ∈ s.list, Path.IsReadable a) ∧
    ∀ found, Path.flatten s (ofSchema s .create resource) = .ok found →
      ∀ a ∈ s.list, a.readPath.isSome = true → a.readPath = a.requestKey →
        found.get? a.name = resource.get? a.name := by
  -- The read path is the dotted key, so it selects what the body has at the key's position.
  refine ⟨Path.flatten_isOk_iff s _, ?_⟩
  intro found flat a listed reads same
  obtain ⟨key, expression⟩ := Option.isSome_iff_exists.mp reads
  have keyed : a.requestKey = some key := same ▸ expression
  have parsed := Path.parse_dotted (named a listed key keyed)
  rw [Path.flatten_get? flat, Schema.find?_of_mem listed, Option.bind_some, Path.shown?, expression,
    Option.bind_some, parsed]
  change ((Path.evaluate _ _).bind _) = _
  rw [Path.evaluate_fields, at?_ofSchema apart .create resource listed keyed rfl]
  exact ofDocument?_shown (sound a.name) _

/-- Nested labels and an empty map come back, and a note that is unset does not. -/
theorem flatten_ofSchema_nested :
    let s : Schema := .ofList "service" none
      [ { name := "labels", type := .map (.map .string) : Attribute }.at_ "spec.meta.labels"
      , { name := "limits", type := .map .int : Attribute }.at_ "spec.limits"
      , { name := "note", required := true : Attribute }.at_ "spec.meta.note" ]
    let labels : Value := .map [("app", .map [("tier", .list [.string "web", .bool true])])]
    let resource : Resource := ⟨⟨"service", "front"⟩,
      (Dict.empty.insert "labels" labels).insert "limits" (.map [])⟩
    ∃ found, Path.flatten s (ofSchema s .create resource) = .ok found ∧
      found.get? "labels" = some labels ∧ found.get? "limits" = some (.map []) ∧
      found.get? "note" = none := by
  -- The schema and the values are small enough to be checked as they are.
  intro s labels resource
  have apart : s.KeysApart := by decide +kernel
  have named : s.KeysNamed := by decide +kernel
  have values : ∀ name, resource.get? name = if "limits" = name then some (.map []) else
      if "labels" = name then some labels else none := by
    intro name
    simp only [resource, Resource.get?, Dict.get?_insert]
    rfl
  -- Neither the labels nor the limits have doubles, and their maps are in order.
  have sound : ∀ name value, resource.get? name = some value →
      value.IsFinite ∧ value.IsOrdered := by
    intro name value set
    rw [values] at set
    split at set
    · cases set
      simp [Value.IsFinite, Value.IsOrdered, Value.Throughout, Value.InEntries,
        Value.IsFiniteFloat, Value.IsOrderedMap, Entries.Ordered]
    · obtain ⟨-, same⟩ := Option.ite_none_right_eq_some.mp set
      cases same
      simp [labels, Value.IsFinite, Value.IsOrdered, Value.Throughout, Value.InEntries,
        Value.InItems, Value.IsFiniteFloat, Value.IsOrderedMap, Entries.Ordered]
  have listed : ∀ name ∈ ["labels", "limits", "note"], ∃ a ∈ s.list, a.name = name ∧
      a.readPath.isSome = true ∧ a.readPath = a.requestKey := by
    decide +kernel
  have reads : (Path.flatten s (ofSchema s .create resource)).toOption.isSome = true := by
    decide +kernel
  -- All three attributes are read from where they are sent.
  obtain ⟨-, echoes⟩ := flatten_ofSchema s resource apart named sound
  obtain ⟨found, flat⟩ := exists_ok_of_isSome reads
  have back : ∀ name ∈ ["labels", "limits", "note"], found.get? name = resource.get? name := by
    intro name member
    obtain ⟨a, sent, rfl, read, same⟩ := listed name member
    exact echoes found flat a sent read same
  refine ⟨found, flat, ?_, ?_, ?_⟩
  all_goals
    rw [back _ (by simp), values]
    rfl

/-- One malformed read path keeps all attributes from being found. -/
theorem flatten_ofSchema_fails :
    let s : Schema := .ofList "disk" none
      [ { name := "name" : Attribute }.at_ "name"
      , { name := "status", computed := true, readPath := some "status[" } ]
    let resource : Resource := ⟨⟨"disk", "data"⟩, Dict.empty.insert "name" (.string "data")⟩
    s.KeysApart ∧ s.KeysNamed ∧
      (∀ name value, resource.get? name = some value → value.IsFinite ∧ value.IsOrdered) ∧
      (∃ a ∈ s.list, a.name = "name" ∧ a.readPath = some "name" ∧ a.requestKey = some "name") ∧
      ¬∃ found, Path.flatten s (ofSchema s .create resource) = .ok found := by
  -- The path of the status alone is malformed, and the name is not found either.
  intro s resource
  have fails : (Path.flatten s (ofSchema s .create resource)).toOption.isNone = true := by
    decide +kernel
  refine ⟨by decide +kernel, by decide +kernel, ?_, by decide +kernel, ?_⟩
  · intro name value set
    rw [Resource.get?, Dict.get?_insert] at set
    split at set
    · cases set
      exact ⟨trivial, trivial⟩
    · cases set
  · rintro ⟨found, flat⟩
    rw [flat] at fails
    cases fails

end Body

end Provision
