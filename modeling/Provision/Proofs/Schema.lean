import Provision.Proofs.Body.Echo
import Provision.Proofs.Catalogue
import Provision.Proofs.Engine.Plan

/-! The faults of a value say where it falls short of its type, and the faults of a resource name
each attribute that is at fault once. -/

namespace Provision

namespace AttributeType

/-- Which values belong to a type. An integer is also good for a float, and the values of a list or
of a map belong to the type inside, one by one. -/
def Admits : AttributeType → Value → Prop
  | string, value => ∃ s, value = .string s
  | int, value => ∃ n, value = .int n
  | float, value => (∃ x, value = .float x) ∨ ∃ n, value = .int n
  | bool, value => ∃ b, value = .bool b
  | oneOf variants, value => ∃ s ∈ variants, value = .string s
  | custom _ reason?, value => reason? value = none
  | list items, value => ∃ values, value = .list values ∧ ∀ item ∈ values, items.Admits item
  | map values, value => ∃ entries, value = .map entries ∧ ∀ entry ∈ entries, values.Admits entry.2

/-- Values that differ in the order of entries only, wherever a check goes through the entries of a
map one by one. A check of a type of its own gets to see the value itself. -/
def Visits : AttributeType → Value → Value → Prop
  | list items, .list visited, .list values => List.Forall₂ items.Visits visited values
  | map values, .map visited, .map entries => ∃ paired, visited.Perm paired ∧
    List.Forall₂ (fun seen entry => seen.1 = entry.1 ∧ values.Visits seen.2 entry.2) paired entries
  | _, visited, value => visited = value

end AttributeType

namespace TypeFault

/-- What is said about a value that is itself at fault. -/
inductive IsAbout : TypeFault → AttributeType → Value → Prop where
  | mismatch (type : AttributeType) (value : Value) :
      IsAbout (.mismatch type.name value.kindName) type value
  | unknownVariant (variants : List String) (s : String) :
      IsAbout (.unknownVariant s variants) (.oneOf variants) (.string s)
  | rejected {name : String} {reason? : Value → Option String} {value : Value} {reason : String} :
      reason? value = some reason → IsAbout (.rejected reason) (.custom name reason?) value

/-- Where the indexes and keys in a fault lead to: from a type and a value to a type inside the one
and a value inside the other. Items in front of an index belong to their type. -/
inductive Leads : TypeFault → AttributeType → Value → AttributeType → Value → Prop where
  | here {fault : TypeFault} {type : AttributeType} {value : Value} :
      fault.IsAbout type value → Leads fault type value type value
  | inList {fault : TypeFault} {type inner : AttributeType} {before after : List Value}
      {item last : Value} : (∀ earlier ∈ before, type.Admits earlier) →
      Leads fault type item inner last →
      Leads (.inList before.length fault) (.list type) (.list (before ++ item :: after)) inner last
  | inMap {fault : TypeFault} {type inner : AttributeType} {entries : List (String × Value)}
      {key : String} {value last : Value} : (key, value) ∈ entries →
      Leads fault type value inner last →
      Leads (.inMap key fault) (.map type) (.map entries) inner last

end TypeFault

namespace AttributeType

/-- The first item with a fault comes behind items without any. -/
theorem exists_of_firstItem {check : Value → Option TypeFault} {start : Nat} {items : List Value}
    {fault : TypeFault} (found : firstItem check start items = some fault) :
    ∃ before item after inner, items = before ++ item :: after ∧
      (∀ earlier ∈ before, check earlier = none) ∧ check item = some inner ∧
      fault = .inList (start + before.length) inner := by
  -- Each item without a fault is passed, and the index counts how many were.
  induction items generalizing start with
  | nil => cases found
  | cons item rest ih =>
    rw [firstItem] at found
    cases checked : check item with
    | some inner =>
      rw [checked] at found
      cases found
      exact ⟨[], item, rest, inner, rfl, List.forall_mem_nil _, checked, rfl⟩
    | none =>
      rw [checked] at found
      -- The fault is in the rest, before which one more item was passed.
      obtain ⟨before, faulty, after, inner, rfl, sound, here, rfl⟩ := ih found
      refine ⟨item :: before, faulty, after, inner, rfl, ?_, here, ?_⟩
      · exact List.forall_mem_cons.mpr ⟨checked, sound⟩
      · rw [List.length_cons, Nat.add_assoc, Nat.add_comm 1]

/-- There is no first entry with a fault exactly when no entry has one. -/
theorem firstEntry_eq_none_iff {check : Value → Option TypeFault}
    {entries : List (String × Value)} :
    firstEntry check entries = none ↔ ∀ entry ∈ entries, check entry.2 = none := by
  -- A sound entry leaves the question to the rest.
  induction entries with
  | nil => simp [firstEntry]
  | cons entry rest ih =>
    rw [firstEntry, List.forall_mem_cons]
    cases checked : check entry.2 with
    | some fault => simp
    | none => simp [ih]

/-- The first entry with a fault is one of the entries. -/
theorem exists_of_firstEntry {check : Value → Option TypeFault} {entries : List (String × Value)}
    {fault : TypeFault} (found : firstEntry check entries = some fault) :
    ∃ key value inner, (key, value) ∈ entries ∧ check value = some inner ∧
      fault = .inMap key inner := by
  -- Unlike an index, the key does not depend on what was passed.
  induction entries with
  | nil => cases found
  | cons entry rest ih =>
    rw [firstEntry] at found
    cases checked : check entry.2 with
    | some inner =>
      rw [checked] at found
      cases found
      exact ⟨entry.1, entry.2, inner, List.mem_cons_self, checked, rfl⟩
    | none =>
      rw [checked] at found
      obtain ⟨key, value, inner, member, here, rfl⟩ := ih found
      exact ⟨key, value, inner, List.mem_cons_of_mem entry member, here, rfl⟩

/-- The values without a fault are those that belong to the type. -/
theorem fault?_eq_none_iff (type : AttributeType) (value : Value) :
    type.fault? value = none ↔ type.Admits value := by
  -- Plain types look at the value once; lists and maps ask the type inside about each part.
  induction type generalizing value with
  | string | int | float | bool => cases value <;> simp [fault?, Admits]
  | oneOf variants => cases value <;> simp [fault?, Admits]
  | custom name reason? => simp [fault?, Admits]
  | list items ih => cases value <;> simp [fault?, Admits, firstItem_eq_none_iff, ih]
  | map values ih =>
    cases value <;> simp [fault?, Admits, firstEntry_eq_none_iff, ih]

/-- A fault is about the value itself, or it was found among its items or entries. -/
theorem isAbout_or_inside {type : AttributeType} {value : Value} {fault : TypeFault}
    (faulty : type.fault? value = some fault) :
    fault.IsAbout type value ∨
      (∃ items values, type = .list items ∧ value = .list values ∧
        firstItem items.fault? 0 values = some fault) ∨
      ∃ values entries, type = .map values ∧ value = .map entries ∧
        firstEntry values.fault? entries = some fault := by
  -- There is a case for each line of the check, of which the first five find no fault.
  unfold fault? at faulty
  split at faulty
  · cases faulty
  · cases faulty
  · cases faulty
  · cases faulty
  · cases faulty
  · rename_i variants s
    split at faulty
    · cases faulty
    · cases faulty
      exact .inl (.unknownVariant variants s)
  · -- A type with a check of its own has its own reason.
    obtain ⟨reason, rejected, rfl⟩ := Option.map_eq_some_iff.mp faulty
    exact .inl (.rejected rejected)
  · -- Items and entries are looked into by the two searches.
    exact .inr (.inl ⟨_, _, rfl, rfl, faulty⟩)
  · exact .inr (.inr ⟨_, _, rfl, rfl, faulty⟩)
  · cases faulty
    exact .inl (.mismatch _ _)

/-- A fault leads to a value that does not belong to its type. -/
theorem exists_leads {type : AttributeType} {value : Value} {fault : TypeFault}
    (faulty : type.fault? value = some fault) :
    ∃ inner last, fault.Leads type value inner last ∧ ¬inner.Admits last := by
  -- No value of a type has a fault in it.
  have denied {type : AttributeType} {value : Value} {fault : TypeFault}
      (faulty : type.fault? value = some fault) : ¬type.Admits value := by
    rw [← fault?_eq_none_iff, faulty]
    nofun
  -- The induction is on the type, which loses a list or a map with each index or key.
  induction type generalizing value fault with
  | list items ih =>
    rcases isAbout_or_inside faulty with about | ⟨_, values, same, rfl, found⟩ | ⟨_, _, same, _⟩
    · exact ⟨_, _, .here about, denied faulty⟩
    · cases same
      -- The faulty item stands behind sound ones, and from it the inner fault leads on.
      obtain ⟨before, item, after, inner, rfl, sound, here, rfl⟩ := exists_of_firstItem found
      obtain ⟨type, last, leads, misplaced⟩ := ih here
      have admitted : ∀ earlier ∈ before, items.Admits earlier := fun earlier member =>
        (fault?_eq_none_iff items earlier).mp (sound earlier member)
      rw [Nat.zero_add]
      exact ⟨type, last, .inList admitted leads, misplaced⟩
    · cases same
  | map values ih =>
    rcases isAbout_or_inside faulty with about | ⟨_, _, same, _⟩ | ⟨_, entries, same, rfl, found⟩
    · exact ⟨_, _, .here about, denied faulty⟩
    · cases same
    · cases same
      -- A key leads to an entry wherever it stands.
      obtain ⟨key, value, inner, member, here, rfl⟩ := exists_of_firstEntry found
      obtain ⟨type, last, leads, misplaced⟩ := ih here
      exact ⟨type, last, .inMap member leads, misplaced⟩
  | string | int | float | bool | oneOf | custom =>
    -- Values of these types have nothing inside that could be at fault.
    rcases isAbout_or_inside faulty with about | ⟨_, _, same, _⟩ | ⟨_, _, same, _⟩
    · exact ⟨_, _, .here about, denied faulty⟩
    · cases same
    · cases same

end AttributeType

/-! The order in which the entries of maps are gone through does not matter. -/

/-- Of two lists that are related item by item, each item of the one has its item of the other. -/
theorem exists_related {α β : Type} {related : α → β → Prop} {items : List α}
    {others : List β} (all : List.Forall₂ related items others) :
    (∀ item ∈ items, ∃ other ∈ others, related item other) ∧
      ∀ other ∈ others, ∃ item ∈ items, related item other := by
  -- The two lists grow together, so both directions are shown at once.
  induction all with
  | nil => simp
  | cons first rest ih =>
    simp only [List.forall_mem_cons, List.exists_mem_cons_iff]
    exact ⟨⟨.inl first, fun item member => .inr (ih.1 item member)⟩, .inl first,
      fun other member => .inr (ih.2 other member)⟩

/-- A list that is related item by item to a split one is split at the same place. -/
theorem split_related {α β : Type} {related : α → β → Prop} {before after : List α}
    {item : α} {others : List β} (all : List.Forall₂ related (before ++ item :: after) others) :
    ∃ first other rest, others = first ++ other :: rest ∧ first.length = before.length ∧
      List.Forall₂ related before first ∧ related item other := by
  -- The part in front is taken off both lists, one item after the other.
  induction before generalizing others with
  | nil =>
    obtain _ | ⟨here, _⟩ := all
    exact ⟨[], _, _, rfl, rfl, .nil, here⟩
  | cons head before ih =>
    obtain _ | ⟨here, all⟩ := all
    obtain ⟨first, other, rest, rfl, same, earlier, found⟩ := ih all
    exact ⟨_ :: first, other, rest, rfl, congrArg _ same, .cons here earlier, found⟩

namespace AttributeType

/-- The values of two lists are gone through item by item. -/
theorem visits_list {items : AttributeType} {visited : List Value} {value : Value} :
    (list items).Visits (.list visited) value ↔
      ∃ values, value = .list values ∧ List.Forall₂ items.Visits visited values := by
  cases value <;> simp [Visits]

/-- The entries of two maps are gone through in any order. -/
theorem visits_map {values : AttributeType} {visited : List (String × Value)} {value : Value} :
    (map values).Visits (.map visited) value ↔ ∃ entries paired, value = .map entries ∧
      visited.Perm paired ∧ List.Forall₂
        (fun seen entry => seen.1 = entry.1 ∧ values.Visits seen.2 entry.2) paired entries := by
  cases value <;> simp [Visits]

/-- A value may be gone through as it is. -/
theorem Visits.refl (type : AttributeType) (value : Value) : type.Visits value value := by
  -- Inside of lists and maps each part may be visited as it is.
  induction type generalizing value with
  | list items ih => cases value <;> simp [Visits, List.forall₂_same, ih]
  | map values ih =>
    cases value with
    | map entries => exact ⟨entries, .refl _, List.forall₂_same.mpr fun entry _ => ⟨rfl, ih _⟩⟩
    | _ => rfl
  | _ => rfl

/-- Values of which only the order of entries differs are of one kind. -/
theorem Visits.kindName_eq {type : AttributeType} {visited value : Value}
    (visits : type.Visits visited value) : visited.kindName = value.kindName := by
  -- A list is visited as a list and a map as a map; everything else is the value itself.
  unfold Visits at visits
  split at visits
  · rfl
  · rfl
  · rw [visits]

/-- Whether a value belongs to a type does not depend on the order of entries. -/
theorem Visits.admits_iff {type : AttributeType} {visited value : Value}
    (visits : type.Visits visited value) : type.Admits visited ↔ type.Admits value := by
  -- Item by item and entry by entry the question is the same one of the type inside.
  induction type generalizing visited value with
  | list items ih =>
    cases visited with
    | list visited =>
      -- Each item of either list is visited as an item of the other.
      obtain ⟨values, rfl, all⟩ := visits_list.mp visits
      simp only [Admits, Value.list.injEq, exists_eq_left']
      constructor
      · intro admitted item member
        obtain ⟨seen, listed, visits⟩ := (exists_related all).2 item member
        exact (ih visits).mp (admitted seen listed)
      · intro admitted seen listed
        obtain ⟨item, member, visits⟩ := (exists_related all).1 seen listed
        exact (ih visits).mpr (admitted item member)
    | _ =>
      obtain rfl : _ = value := visits
      rfl
  | map values ih =>
    cases visited with
    | map visited =>
      -- The order of the entries makes no difference to what every one of them is.
      obtain ⟨entries, paired, rfl, shuffled, all⟩ := visits_map.mp visits
      simp only [Admits, Value.map.injEq, exists_eq_left', shuffled.mem_iff]
      constructor
      · intro admitted entry member
        obtain ⟨seen, listed, -, visits⟩ := (exists_related all).2 entry member
        exact (ih visits).mp (admitted seen listed)
      · intro admitted seen listed
        obtain ⟨entry, member, -, visits⟩ := (exists_related all).1 seen listed
        exact (ih visits).mpr (admitted entry member)
    | _ =>
      obtain rfl : _ = value := visits
      rfl
  | _ =>
    obtain rfl : visited = value := visits
    rfl

end AttributeType

namespace TypeFault

open AttributeType

/-- What is said about a value does not depend on the order of entries. -/
theorem IsAbout.of_visits {fault : TypeFault} {type : AttributeType} {visited value : Value}
    (about : fault.IsAbout type visited) (visits : type.Visits visited value) :
    fault.IsAbout type value := by
  -- A mismatch tells no more than the kind of a value, and other faults are about plain values.
  cases about with
  | mismatch =>
    rw [visits.kindName_eq]
    exact .mismatch type value
  | unknownVariant =>
    obtain rfl : _ = value := visits
    exact .unknownVariant _ _
  | rejected found =>
    obtain rfl : visited = value := visits
    exact .rejected found

/-- A fault leads to the same place in whichever order entries are listed. -/
theorem Leads.of_visits {fault : TypeFault} {type inner : AttributeType} {visited last : Value}
    (leads : fault.Leads type visited inner last) {value : Value}
    (visits : type.Visits visited value) :
    ∃ place, fault.Leads type value inner place ∧ inner.Visits last place := by
  -- The fault is followed inwards, and at each index or key the two values go on together.
  induction leads generalizing value with
  | here about => exact ⟨value, .here (about.of_visits visits), visits⟩
  | inList admitted _ ih =>
    obtain ⟨values, rfl, all⟩ := visits_list.mp visits
    obtain ⟨first, other, rest, rfl, same, earlier, found⟩ := split_related all
    obtain ⟨place, leads, seen⟩ := ih found
    rw [← same]
    refine ⟨place, .inList (fun item member => ?_) leads, seen⟩
    -- What stands in front of the index was visited as a value of its type.
    obtain ⟨item', member', visits'⟩ := (exists_related earlier).2 item member
    exact visits'.admits_iff.mp (admitted item' member')
  | inMap member _ ih =>
    obtain ⟨entries, paired, rfl, shuffled, all⟩ := visits_map.mp visits
    -- The entry that was visited has its counterpart under the same key.
    obtain ⟨⟨key, other⟩, listed, rfl, found⟩ :=
      (exists_related all).1 _ (shuffled.mem_iff.mp member)
    obtain ⟨place, leads, seen⟩ := ih found
    exact ⟨place, .inMap listed leads, seen⟩

end TypeFault

namespace AttributeType

/-- In whichever order entries are gone through, there is no fault exactly in values that belong to
the type, and a fault leads to a value that does not belong to its type. -/
theorem fault?_of_visits {type : AttributeType} {visited value : Value}
    (visits : type.Visits visited value) :
    (type.fault? visited = none ↔ type.Admits value) ∧
      ∀ fault, type.fault? visited = some fault →
        ∃ inner last, fault.Leads type value inner last ∧ ¬inner.Admits last := by
  -- What was visited decides, and it leads to the same place in the value.
  refine ⟨?_, fun fault faulty => ?_⟩
  · rw [fault?_eq_none_iff, visits.admits_iff]
  · obtain ⟨inner, last, leads, misplaced⟩ := exists_leads faulty
    obtain ⟨place, leads, seen⟩ := leads.of_visits visits
    exact ⟨inner, place, leads, fun admitted => misplaced (seen.admits_iff.mpr admitted)⟩

end AttributeType

namespace Schema

/-- An attribute is required but absent, and has no default. -/
def Lacks (s : Schema) (attributes : Attributes) (name : String) : Prop :=
  ∃ a, s.find? name = some a ∧ a.required = true ∧ attributes.get? name = none ∧ a.default? = none

/-- An attribute is set that only the service may set. -/
def Forbids (s : Schema) (attributes : Attributes) (name : String) : Prop :=
  ∃ a value, s.find? name = some a ∧ attributes.get? name = some value ∧ a.computed = true

/-- Any other attribute is set to a value that does not belong to its type. -/
def Mistypes (s : Schema) (attributes : Attributes) (name : String) : Prop :=
  ∃ a value, s.find? name = some a ∧ attributes.get? name = some value ∧ a.computed = false ∧
    ¬a.type.Admits value

/-- A fault leads to the place at which the value of such an attribute falls short. -/
def Blames (s : Schema) (attributes : Attributes) (name : String) (fault : TypeFault) : Prop :=
  ∃ a value, s.find? name = some a ∧ attributes.get? name = some value ∧ a.computed = false ∧
    ∃ inner last, fault.Leads a.type value inner last ∧ ¬inner.Admits last

/-- An entry is seen under its key, and its value in any order of what is inside. -/
def Sees (s : Schema) (seen entry : String × Value) : Prop :=
  seen.1 = entry.1 ∧ ∀ a, s.find? entry.1 = some a → a.type.Visits seen.2 entry.2

/-- Entries are gone through in any order, and so is what is inside their values. -/
def Visits (s : Schema) (visited entries : List (String × Value)) : Prop :=
  ∃ paired, visited.Perm paired ∧ List.Forall₂ s.Sees paired entries

/-- Faults that tell each attribute that is at fault once, in any order, and nothing else. -/
inductive Reports (s : Schema) (attributes : Attributes) : List TypeFault → Prop where
  | mk {missing computed : List String} {mistyped : List (String × TypeFault)}
      {faults : List TypeFault} :
      Lists missing (s.Lacks attributes) → Lists computed (s.Forbids attributes) →
      Lists (mistyped.map (·.1)) (s.Mistypes attributes) →
      (∀ entry ∈ mistyped, s.Blames attributes entry.1 entry.2) →
      faults.Perm (missing.map .missing ++ (computed.map .computed ++ mistyped.map (·.2))) →
      Reports s attributes faults

/-- The entry of an attribute that may be set, with the fault of its value. -/
def mistyped? (s : Schema) (entry : String × Value) : Option (String × TypeFault) :=
  (s.find? entry.1).bind fun a =>
    if a.computed then none else (a.type.fault? entry.2).map fun fault => (entry.1, fault)

/-- The names of attributes are listed in order. -/
theorem names_ordered (s : Schema) : (s.list.map (·.name)).Pairwise (· < ·) := by
  -- Every attribute has the name that is its key, and keys are in order.
  have keys : s.list.map (·.name) = s.attributes.keys := by
    rw [list, List.map_map]
    exact List.map_congr_left s.named
  rw [keys]
  exact s.attributes.keys_ordered

/-- An attribute that is found is listed under the name. -/
theorem mem_of_find? {s : Schema} {name : String} {a : Attribute} (found : s.find? name = some a) :
    a ∈ s.list ∧ a.name = name := by
  -- What is found under a name is an entry, and entries have the name of their attribute.
  have member := (Entries.get?_eq_some_iff s.attributes.ordered).mp found
  exact ⟨List.mem_map_of_mem member, s.named _ member⟩

/-- An attribute is missing if it is required but absent, and has no default. -/
theorem missing?_eq_some_iff {a : Attribute} {attributes : Attributes} {fault : TypeFault} :
    missing? a attributes = some fault ↔
      (a.required = true ∧ attributes.get? a.name = none ∧ a.default? = none) ∧
        .missing a.name = fault := by
  simp [missing?, Dict.contains]

/-- The attributes that are missing are told by their names. -/
theorem filterMap_missing? (attributes : Attributes) (listed : List Attribute) :
    listed.filterMap (missing? · attributes) =
      ((listed.filter fun a => (missing? a attributes).isSome).map (·.name)).map .missing := by
  -- Each attribute is missing under its own name or not at all.
  induction listed with
  | nil => rfl
  | cons a rest ih =>
    cases checked : missing? a attributes with
    | none => simpa [checked] using ih
    | some fault =>
      obtain ⟨-, rfl⟩ := missing?_eq_some_iff.mp checked
      simpa [checked] using ih

/-- The attributes that are missing are listed. -/
theorem missing_lists (s : Schema) (attributes : Attributes) :
    Lists ((s.list.filter fun a => (missing? a attributes).isSome).map (·.name))
      (s.Lacks attributes) where
  ordered := s.names_ordered.sublist (List.filter_sublist.map _)
  mem_iff := fun name => by
    -- Under a name there is one attribute, so to be found and to be listed is the same.
    simp only [List.mem_map, List.mem_filter, Option.isSome_iff_exists, missing?_eq_some_iff]
    constructor
    · rintro ⟨a, ⟨listed, _, ⟨required, absent, bare⟩, -⟩, rfl⟩
      exact ⟨a, find?_of_mem listed, required, absent, bare⟩
    · rintro ⟨a, found, required, absent, bare⟩
      obtain ⟨listed, rfl⟩ := mem_of_find? found
      exact ⟨a, ⟨listed, _, ⟨required, absent, bare⟩, rfl⟩, rfl⟩

/-- An entry is mistyped if its attribute may be set and its value has a fault. -/
theorem mistyped?_eq_some_iff {s : Schema} {entry : String × Value} {name : String}
    {fault : TypeFault} : s.mistyped? entry = some (name, fault) ↔
      entry.1 = name ∧ ∃ a, s.find? name = some a ∧ a.computed = false ∧
        a.type.fault? entry.2 = some fault := by
  -- The attribute has to be known and settable before its type is asked.
  rw [mistyped?, Option.bind_eq_some_iff]
  constructor
  · rintro ⟨a, found, rest⟩
    obtain ⟨settable, rest⟩ := Option.ite_none_left_eq_some.mp rest
    obtain ⟨_, faulty, same⟩ := Option.map_eq_some_iff.mp rest
    cases same
    exact ⟨rfl, a, found, by simpa using settable, faulty⟩
  · rintro ⟨rfl, a, found, settable, faulty⟩
    exact ⟨a, found, by simp [settable, faulty]⟩

section Seen

variable {s : Schema} {attributes : Attributes} {paired : List (String × Value)}
  (all : List.Forall₂ s.Sees paired attributes.entries)

include all

/-- What is seen has the keys of the attributes, in order. -/
theorem keys_seen_ordered : (paired.map (·.1)).Pairwise (· < ·) := by
  -- Each entry is seen under its own key.
  have same : paired.map (·.1) = attributes.entries.map (·.1) := by
    rw [← List.forall₂_eq_eq_eq, List.forall₂_map_left_iff, List.forall₂_map_right_iff]
    exact all.imp fun _ _ sees => sees.1
  rw [same]
  exact attributes.keys_ordered

/-- What is seen of an attribute is its value. -/
theorem exists_of_seen {name : String} {seen : Value} (listed : (name, seen) ∈ paired) :
    ∃ value, attributes.get? name = some value ∧
      ∀ a, s.find? name = some a → a.type.Visits seen value := by
  -- Whatever is seen is one of the entries.
  obtain ⟨⟨_, value⟩, member, rfl, visits⟩ := (exists_related all).1 _ listed
  exact ⟨value, (Entries.get?_eq_some_iff attributes.ordered).mpr member, visits⟩

/-- The value of an attribute is seen. -/
theorem exists_seen {name : String} {value : Value} (set : attributes.get? name = some value) :
    ∃ seen, (name, seen) ∈ paired ∧ ∀ a, s.find? name = some a → a.type.Visits seen value := by
  -- Whatever is an entry is seen somewhere.
  have member := (Entries.get?_eq_some_iff attributes.ordered).mp set
  obtain ⟨⟨_, seen⟩, listed, rfl, visits⟩ := (exists_related all).2 _ member
  exact ⟨seen, listed, visits⟩

/-- The attributes that are set but computed are listed. -/
theorem computed_lists :
    Lists ((paired.filter fun entry => (s.find? entry.1).any (·.computed)).map (·.1))
      (s.Forbids attributes) where
  ordered := (keys_seen_ordered all).sublist (List.filter_sublist.map _)
  mem_iff := fun name => by
    -- That something is set is all that counts, so no value is compared.
    simp only [List.mem_map, List.mem_filter, Option.any_eq_true]
    constructor
    · rintro ⟨⟨name, seen⟩, ⟨listed, a, found, computed⟩, rfl⟩
      obtain ⟨value, set, -⟩ := exists_of_seen all listed
      exact ⟨a, value, found, set, computed⟩
    · rintro ⟨a, value, found, set, computed⟩
      obtain ⟨seen, listed, -⟩ := exists_seen all set
      exact ⟨(name, seen), ⟨listed, a, found, computed⟩, rfl⟩

/-- The attributes that are mistyped are listed. -/
theorem mistyped_lists :
    Lists ((paired.filterMap s.mistyped?).map (·.1)) (s.Mistypes attributes) where
  ordered := by
    -- What is left of entries in order is in order.
    have ordered := List.pairwise_map.mp (keys_seen_ordered all)
    refine List.pairwise_map.mpr (ordered.filterMap _ ?_)
    rintro first second less ⟨name, _⟩ here ⟨other, _⟩ there
    obtain ⟨rfl, -⟩ := mistyped?_eq_some_iff.mp here
    obtain ⟨rfl, -⟩ := mistyped?_eq_some_iff.mp there
    exact less
  mem_iff := fun name => by
    -- What is seen has a fault exactly if the value does not belong to the type.
    simp only [List.mem_map, List.mem_filterMap, Prod.exists, exists_and_right, exists_eq_right,
      mistyped?_eq_some_iff]
    constructor
    · rintro ⟨fault, _, seen, listed, rfl, a, found, settable, faulty⟩
      obtain ⟨value, set, visits⟩ := exists_of_seen all listed
      refine ⟨a, value, found, set, settable, ?_⟩
      rw [← (AttributeType.fault?_of_visits (visits a found)).1, faulty]
      nofun
    · rintro ⟨a, value, found, set, settable, misplaced⟩
      obtain ⟨seen, listed, visits⟩ := exists_seen all set
      rw [← (AttributeType.fault?_of_visits (visits a found)).1, ← ne_eq,
        Option.ne_none_iff_exists'] at misplaced
      obtain ⟨fault, faulty⟩ := misplaced
      exact ⟨fault, name, seen, listed, rfl, a, found, settable, faulty⟩

/-- The fault of an attribute leads to the place at which its value falls short. -/
theorem mistyped_blames {name : String} {fault : TypeFault}
    (told : (name, fault) ∈ paired.filterMap s.mistyped?) : s.Blames attributes name fault := by
  -- The fault was found in what is seen, and leads to a place in the value.
  obtain ⟨⟨_, seen⟩, listed, mistyped⟩ := List.mem_filterMap.mp told
  obtain ⟨rfl, a, found, settable, faulty⟩ := mistyped?_eq_some_iff.mp mistyped
  obtain ⟨value, set, visits⟩ := exists_of_seen all listed
  have leads := (AttributeType.fault?_of_visits (visits a found)).2 fault faulty
  exact ⟨a, value, found, set, settable, leads⟩

end Seen

/-- The faults of what is set are those of computed attributes and those of values. -/
theorem filterMap_setFault?_perm (s : Schema) (entries : List (String × Value)) :
    (entries.filterMap fun (name, value) => s.setFault? name value).Perm
      (((entries.filter fun entry => (s.find? entry.1).any (·.computed)).map (·.1)).map .computed
        ++ (entries.filterMap s.mistyped?).map (·.2)) := by
  -- An entry adds a fault to the one list or to the other, or to none.
  induction entries with
  | nil => exact .refl _
  | cons entry rest ih =>
    obtain ⟨name, value⟩ := entry
    cases found : s.find? name with
    | none => simpa [setFault?, mistyped?, found] using ih
    | some a =>
      cases settable : a.computed with
      | true => simpa [setFault?, mistyped?, found, settable] using ih
      | false =>
        cases faulty : a.type.fault? value with
        | none => simpa [setFault?, mistyped?, found, settable, faulty] using ih
        | some fault =>
          -- The fault comes behind those of computed attributes.
          have moved := (ih.cons fault).trans List.perm_middle.symm
          simpa [setFault?, mistyped?, found, settable, faulty] using moved

/-- Each fault of a resource is reported once, in whichever order attributes are gone through. -/
theorem reports_of_visits (s : Schema) (attributes : Attributes) {listed : List Attribute}
    {visited : List (String × Value)} (whole : listed.Perm s.list)
    (visits : s.Visits visited attributes.entries) :
    s.Reports attributes (listed.filterMap (missing? · attributes)
      ++ visited.filterMap fun (name, value) => s.setFault? name value) := by
  -- Either part of the report only has its order changed.
  obtain ⟨paired, shuffled, all⟩ := visits
  refine .mk (s.missing_lists attributes) (computed_lists all) (mistyped_lists all)
    (fun entry member => mistyped_blames all member) ?_
  refine .append ?_ ?_
  · -- What is missing is found among the attributes of the schema, in their order or another.
    rw [← filterMap_missing?]
    exact whole.filterMap _
  · exact (shuffled.filterMap _).trans (s.filterMap_setFault?_perm _)

/-- The attributes of a resource may be gone through as they are. -/
theorem Visits.refl (s : Schema) (entries : List (String × Value)) : s.Visits entries entries :=
  ⟨entries, .refl _, List.forall₂_same.mpr fun _ _ => ⟨rfl, fun _ _ => .refl _ _⟩⟩

/--
A value has no fault in a type exactly if it belongs to the type, and each fault of a resource is
reported once.

The indexes and keys in a fault lead to a value that does not belong to the type there, and all
items in front of an index belong to theirs. This holds in whichever order the entries of maps are
gone through, at any depth. In whichever order attributes are gone through, each required one
without a default is reported if it is absent, each computed one if it is set, each other one that
is known if its value does not belong to its type, and nothing else.
-/
theorem faults_exact :
    (∀ (type : AttributeType) (value : Value),
      (type.fault? value = none ↔ type.Admits value) ∧
      ∀ fault, type.fault? value = some fault →
        ∃ inner last, fault.Leads type value inner last ∧ ¬inner.Admits last) ∧
    (∀ (type : AttributeType) (visited value : Value), type.Visits visited value →
      (type.fault? visited = none ↔ type.Admits value) ∧
      ∀ fault, type.fault? visited = some fault →
        ∃ inner last, fault.Leads type value inner last ∧ ¬inner.Admits last) ∧
    ∀ (s : Schema) (attributes : Attributes), s.Reports attributes (s.faults attributes) ∧
      ∀ (listed : List Attribute) (visited : List (String × Value)), listed.Perm s.list →
        s.Visits visited attributes.entries →
        s.Reports attributes (listed.filterMap (missing? · attributes)
          ++ visited.filterMap fun (name, value) => s.setFault? name value) := by
  -- To go through something as it is, is one of the orders.
  refine ⟨fun type value => ?_, fun _ _ _ => AttributeType.fault?_of_visits,
    fun s attributes => ?_⟩
  · exact AttributeType.fault?_of_visits (.refl type value)
  · exact ⟨s.reports_of_visits attributes (.refl _) (.refl s _),
      fun _ _ => s.reports_of_visits attributes⟩

/-- The third item of a list is a map in which one number is not positive. -/
example :
    (AttributeType.list (.map .positiveInt)).fault?
      (.list [.map [], .map [("a", .int 1)], .map [("b", .int 2), ("c", .int 0)]]) =
    some (.inList 2 (.inMap "c" (.rejected "Value must be positive"))) := rfl

end Schema

end Provision
