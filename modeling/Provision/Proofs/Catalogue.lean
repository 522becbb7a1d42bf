import Mathlib.Data.List.Basic
import Provision.Catalogue
import Provision.Proofs.Dict

/-! The kinds of the catalogue can build the body of every update of a resource without faults. -/

namespace Provision

namespace Schema

/-- Without faults, no attribute that is set has one. -/
theorem setFault?_eq_none {s : Schema} {attributes : Attributes} (sound : s.faults attributes = [])
    {name : String} {value : Value} (set : attributes.get? name = some value) :
    s.setFault? name value = none := by
  -- The faults of what is set are the second part of all faults.
  have checked := List.filterMap_eq_nil_iff.mp (List.append_eq_nil_iff.mp sound).2
  exact checked (name, value) ((Entries.get?_eq_some_iff attributes.ordered).mp set)

end Schema

namespace AttributeType

/-- There is no first item with a fault exactly when no item has one. -/
theorem firstItem_eq_none_iff {check : Value → Option TypeFault} {index : Nat}
    {items : List Value} :
    firstItem check index items = none ↔ ∀ item ∈ items, check item = none := by
  -- The search goes on behind each item that has no fault.
  induction items generalizing index with
  | nil => simp [firstItem]
  | cons item rest ih =>
    rw [firstItem, List.forall_mem_cons]
    cases checked : check item with
    | some fault => simp
    | none => simp [ih]

/-- A value without fault in the type of texts is a text. -/
theorem exists_of_string {value : Value} (sound : AttributeType.string.fault? value = none) :
    ∃ text, value.string? = some text := by
  -- Every other value has the fault of not being a text.
  cases value with
  | string text => exact ⟨text, rfl⟩
  | int | float | bool | list | map => simp [fault?] at sound

/-- A value without fault in a type of variants is one of them. -/
theorem exists_of_oneOf {variants : List String} {value : Value}
    (sound : (AttributeType.oneOf variants).fault? value = none) :
    ∃ text ∈ variants, value = .string text := by
  -- Only texts are looked up among the variants.
  cases value with
  | string text =>
    simp only [fault?] at sound
    split at sound
    · rename_i listed
      exact ⟨text, listed, rfl⟩
    · cases sound
  | int | float | bool | list | map => simp [fault?] at sound

/-- A value without fault in the type of positive integers is an integer. -/
theorem exists_of_positiveInt {value : Value}
    (sound : AttributeType.positiveInt.fault? value = none) : ∃ n, value = .int n := by
  -- Every other value has the fault of not being an integer.
  cases value with
  | int n => exact ⟨n, rfl⟩
  | string | float | bool | list | map => simp [positiveInt, fault?] at sound

/-- A list without fault in the type of lists of texts is made of texts. -/
theorem mapM_string?_of_list {items : List Value}
    (sound : (AttributeType.list .string).fault? (.list items) = none) :
    ∃ texts, items.mapM Value.string? = some texts := by
  -- Each item has been checked by itself, so the texts are collected one by one.
  rw [fault?, firstItem_eq_none_iff] at sound
  induction items with
  | nil => exact ⟨[], rfl⟩
  | cons item rest ih =>
    obtain ⟨text, here⟩ := exists_of_string (sound item List.mem_cons_self)
    obtain ⟨texts, later⟩ := ih fun other member => sound other (List.mem_cons_of_mem item member)
    exact ⟨text :: texts, by simp [here, later]⟩

end AttributeType

namespace Kind

/-- The bodies of a kind come from its schema alone. -/
def IsSchemaDriven (kind : Kind) : Prop :=
  ∀ purpose resource, kind.body purpose resource =
    .ok (some (Body.ofSchema kind.schema purpose resource))

/-- The body of every update can be built from a resource without faults. -/
def BuildsUpdates (kind : Kind) : Prop :=
  ∀ names resource, kind.schema.faults resource.attributes = [] →
    ∃ body, kind.body (.update names) resource = .ok body

/-- A schema alone always gives a body. -/
theorem IsSchemaDriven.buildsUpdates {kind : Kind} (driven : kind.IsSchemaDriven) :
    kind.BuildsUpdates :=
  fun names resource _ => ⟨_, driven (.update names) resource⟩

end Kind

namespace Catalogue

/-- The addresses of a group without faults are texts. -/
theorem IpGroup.addresses_of_sound {resource : Resource}
    (sound : IpGroup.schema.faults resource.attributes = []) :
    ∃ texts, IpGroup.addresses resource = .ok texts := by
  unfold IpGroup.addresses
  split
  · rename_i items set
    -- The attribute is in the schema as a list of texts, so its items have been checked.
    have checked := Schema.setFault?_eq_none sound set
    have typed : IpGroup.schema.setFault? "ip_addresses" (.list items) =
        (AttributeType.list .string).fault? (.list items) := rfl
    obtain ⟨texts, all⟩ := AttributeType.mapM_string?_of_list (typed ▸ checked)
    exact ⟨texts, by rw [all]⟩
  · -- Anything but a list counts as no addresses.
    exact ⟨[], rfl⟩

/-- Every kind of the catalogue can build the body of every update. -/
theorem buildsUpdates {kind : Kind} (listed : kind ∈ kinds) : kind.BuildsUpdates := by
  -- Kind by kind: what has no fault is all that a body needs.
  intro names resource sound
  simp only [kinds, List.mem_cons, List.not_mem_nil, or_false] at listed
  rcases listed with rfl | rfl | rfl | rfl | rfl | rfl
  · exact ⟨_, rfl⟩
  · exact ⟨_, rfl⟩
  · -- A volume that grows has a body of its own, which cannot fail either.
    by_cases grows : names.contains "size" = true
    · exact ⟨_, by simp only [Volume.kind, Volume.body, grows, if_true]; rfl⟩
    · exact ⟨_, by simp only [Volume.kind, Volume.body, grows]; rfl⟩
  · exact ⟨_, rfl⟩
  · -- Only the body of an address group looks at the values that it is given.
    obtain ⟨texts, addressed⟩ := IpGroup.addresses_of_sound sound
    exact ⟨_, by simp only [IpGroup.kind, IpGroup.body, addressed]; rfl⟩
  · exact ⟨_, rfl⟩

end Catalogue

end Provision
