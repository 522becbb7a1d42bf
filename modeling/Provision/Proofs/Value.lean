import Provision.Body
import Provision.Proofs.Dict

/-! Values come back from documents as they were, unless a double in them is infinite or no
number. -/

namespace Provision

/-- A double agrees with itself exactly when it is a number. -/
theorem Binary64.agrees_self_iff (x : Binary64) : x.agrees x = true ↔ x.isNaN = false := by
  -- Only what is no number differs from itself.
  simp [agrees]

namespace Value

mutual

/-- A property of a value and of all values inside it. -/
def Throughout (holds : Value → Prop) : Value → Prop
  | list items => holds (list items) ∧ InItems holds items
  | map entries => holds (map entries) ∧ InEntries holds entries
  | value => holds value

/-- A property of items and of all values inside them. -/
def InItems (holds : Value → Prop) : List Value → Prop
  | [] => True
  | item :: rest => item.Throughout holds ∧ InItems holds rest

/-- A property of the values of entries and of all values inside them. -/
def InEntries (holds : Value → Prop) : List (String × Value) → Prop
  | [] => True
  | (_, value) :: rest => value.Throughout holds ∧ InEntries holds rest

end

/-- A property of all values in a value is one of the value itself. -/
theorem Throughout.self {holds : Value → Prop} {v : Value} (all : v.Throughout holds) :
    holds v := by
  -- For lists and maps it is the first half, and for all others the whole.
  cases v with
  | list | map => exact all.1
  | string | int | float | bool => exact all

/-- A value is a finite double, if it is a double. -/
def IsFiniteFloat : Value → Prop
  | float x => x.isFinite = true
  | _ => True

/-- A value is a double that is a number, if it is a double. -/
def IsNumberFloat : Value → Prop
  | float x => x.isNaN = false
  | _ => True

/-- A value lists its entries in the order of distinct keys, if it is a map. -/
def IsOrderedMap : Value → Prop
  | map entries => Entries.Ordered entries
  | _ => True

/-- All doubles in a value are finite. -/
def IsFinite (v : Value) : Prop := v.Throughout IsFiniteFloat

/-- All doubles in a value are numbers, which may be infinite. -/
def IsNumeric (v : Value) : Prop := v.Throughout IsNumberFloat

/-- All maps in a value list their entries in the order of distinct keys. -/
def IsOrdered (v : Value) : Prop := v.Throughout IsOrderedMap

mutual

/-- A value agrees with itself exactly when all doubles in it are numbers. -/
theorem agrees_self_iff (v : Value) : v.agrees v = true ↔ v.IsNumeric := by
  -- Only doubles can disagree with themselves; lists and maps pass on what is inside them.
  cases v with
  | string s => simp [agrees, IsNumeric, Throughout, IsNumberFloat]
  | int n => simp [agrees, IsNumeric, Throughout, IsNumberFloat]
  | float x => exact x.agrees_self_iff
  | bool b => simp [agrees, IsNumeric, Throughout, IsNumberFloat]
  | list items =>
    simpa [agrees, IsNumeric, Throughout, IsNumberFloat] using agreeItems_self_iff items
  | map entries =>
    simpa [agrees, IsNumeric, Throughout, IsNumberFloat] using agreeEntries_self_iff entries

/-- Items agree with themselves exactly when all doubles in them are numbers. -/
theorem agreeItems_self_iff (items : List Value) :
    agreeItems items items = true ↔ InItems IsNumberFloat items := by
  -- Item by item, like the lists that are compared.
  cases items with
  | nil => simp [agreeItems, InItems]
  | cons item rest =>
    rw [agreeItems, InItems, Bool.and_eq_true]
    exact and_congr (agrees_self_iff item) (agreeItems_self_iff rest)

/-- Entries agree with themselves exactly when all doubles in them are numbers. -/
theorem agreeEntries_self_iff (entries : List (String × Value)) :
    agreeEntries entries entries = true ↔ InEntries IsNumberFloat entries := by
  -- A key always equals itself, so the values decide.
  cases entries with
  | nil => simp [agreeEntries, InEntries]
  | cons head rest =>
    obtain ⟨key, value⟩ := head
    rw [agreeEntries, InEntries, Bool.and_eq_true, beq_self_eq_true, Bool.true_and]
    exact and_congr (agrees_self_iff value) (agreeEntries_self_iff rest)

end

/-- A signed integer of 64 bits is read back from its document. -/
theorem ofDocument?_ofInt (n : Int64) : ofDocument? (.ofInt n.toInt) = some (int n) := by
  -- Its range lies within that of the integers of a document, and below their unsigned part.
  have low : -9223372036854775808 ≤ n.toInt := n.le_toInt
  have high : n.toInt < 9223372036854775808 := n.toInt_lt
  have range : -9223372036854775808 ≤ n.toInt ∧ n.toInt < 18446744073709551616 := by omega
  rw [Document.ofInt, Number.ofInt?, dif_pos range]
  change some (ofNumber (.int n.toInt range.1 range.2)) = _
  rw [ofNumber, if_pos high, Int64.ofInt_toInt]

/-- A finite double is read back from its document. -/
theorem ofDocument?_ofFloat {x : Binary64} (finite : x.isFinite = true) :
    ofDocument? (.ofFloat x) = some (float x) := by
  -- A finite double has a number in documents.
  rw [Document.ofFloat, Number.ofFloat?, dif_pos finite]
  rfl

mutual

/-- A value is read back from its document as it was, if all doubles in it are finite. -/
theorem ofDocument?_toDocument (v : Value) (finite : v.IsFinite) :
    ofDocument? v.toDocument = some v := by
  -- A document shows no nulls then, so nothing of it is left out.
  cases v with
  | string s => rfl
  | int n => exact ofDocument?_ofInt n
  | float x => exact ofDocument?_ofFloat finite
  | bool b => rfl
  | list items => rw [toDocument, ofDocument?, ofItems_toItems items finite.2]
  | map entries => rw [toDocument, ofDocument?, ofFields_toFields entries finite.2]

/-- Items are read back from their documents as they were, if all doubles in them are finite. -/
theorem ofItems_toItems (items : List Value) (finite : InItems IsFiniteFloat items) :
    ofItems (toItems items) = items := by
  -- Every item is read back, so none is dropped from the list.
  cases items with
  | nil => rfl
  | cons item rest =>
    have first := ofDocument?_toDocument item finite.1
    rw [toItems, ofItems, first, ofItems_toItems rest finite.2]

/-- Entries are read back from their fields as they were, if all doubles in them are finite. -/
theorem ofFields_toFields (entries : List (String × Value))
    (finite : InEntries IsFiniteFloat entries) : ofFields (toFields entries) = entries := by
  -- Every field is read back under its own key.
  cases entries with
  | nil => rfl
  | cons head rest =>
    obtain ⟨key, value⟩ := head
    have first := ofDocument?_toDocument value finite.1
    rw [toFields, ofFields, first, ofFields_toFields rest finite.2]

end

/-- The fields of entries have the keys of the entries. -/
theorem map_fst_toFields (entries : List (String × Value)) :
    (toFields entries).map (·.1) = entries.map (·.1) := by
  -- Each entry becomes one field under its key.
  induction entries with
  | nil => rfl
  | cons head rest ih => rw [toFields, List.map_cons, ih, List.map_cons]

/-- The fields of entries are in order if the entries are. -/
theorem toFields_ordered {entries : List (String × Value)} (ordered : Entries.Ordered entries) :
    Entries.Ordered (toFields entries) := by
  -- The order is one of the keys alone, and these are the same.
  have keys : (entries.map (·.1)).Pairwise (· < ·) := List.pairwise_map.mpr ordered
  rw [← map_fst_toFields] at keys
  exact List.pairwise_map.mp keys

end Value

namespace FieldValue

mutual

/-- A body shows a value as its document. -/
theorem render_ofValue (v : Value) (ordered : v.IsOrdered) :
    (ofValue v).render = some v.toDocument := by
  -- An object without fields counts as set, and one with fields has some to show.
  cases v with
  | string s => rfl
  | int n => rfl
  | float x => rfl
  | bool b => rfl
  | list items => rw [ofValue, render, renderItems_ofItems items ordered.2, Value.toDocument]
  | map entries =>
    have fields := renderFields_ofEntries entries ordered.2
    have same : Document.ofFields (Value.toFields entries) = .object (Value.toFields entries) := by
      rw [Document.ofFields, Dict.ofList_entries (Value.toFields_ordered ordered.1)]
    rw [ofValue, render, fields, same, Value.toDocument]
    cases entries with
    | nil => rfl
    | cons head rest => rfl

/-- A body shows items as their documents. -/
theorem renderItems_ofItems (items : List Value)
    (ordered : Value.InItems Value.IsOrderedMap items) :
    renderItems (ofItems items) = Value.toItems items := by
  -- Each item shows, so none is left out of the list.
  cases items with
  | nil => rfl
  | cons item rest =>
    have first := render_ofValue item ordered.1
    rw [ofItems, renderItems, first, renderItems_ofItems rest ordered.2, Value.toItems]

/-- A body shows entries as their fields. -/
theorem renderFields_ofEntries (entries : List (String × Value))
    (ordered : Value.InEntries Value.IsOrderedMap entries) :
    renderFields (ofEntries entries) = Value.toFields entries := by
  -- Each value shows, so none of the optional fields is left out.
  cases entries with
  | nil => rfl
  | cons head rest =>
    obtain ⟨key, value⟩ := head
    have first := render_ofValue value ordered.1
    rw [ofEntries, Field.optional, renderFields, first, renderFields_ofEntries rest ordered.2,
      Value.toFields]

end

/-- A value that is set is never left out of a body. -/
theorem render_ofValue_ne_none (v : Value) : (ofValue v).render ≠ none := by
  -- Only an object that has fields may count as unset, and its first field shows.
  match v with
  | .string _ | .int _ | .float _ | .bool _ | .list _ | .map [] => nofun
  | .map ((key, first) :: rest) =>
    obtain ⟨shown, rendered⟩ := Option.ne_none_iff_exists'.mp (render_ofValue_ne_none first)
    simp [ofValue, ofEntries, render, renderFields, Field.optional, rendered]

/-- A value that is set shows as null exactly when it is a double that is not finite. -/
theorem render_ofValue_eq_null_iff (v : Value) :
    (ofValue v).render = some .null ↔ ¬v.IsFiniteFloat := by
  -- Only a double can become null, as documents have no infinity.
  cases v with
  | string | bool => simp [ofValue, render, Value.toDocument, Value.IsFiniteFloat]
  | int n =>
    -- An integer is read back from its document, and nothing is read from null.
    have back := Value.ofDocument?_ofInt n
    have set : Document.ofInt n.toInt ≠ .null := fun null => by
      rw [null] at back
      cases back
    simpa [ofValue, render, Value.toDocument, Value.IsFiniteFloat] using set
  | float x =>
    by_cases finite : x.isFinite = true <;>
      simp [ofValue, render, Value.toDocument, Value.IsFiniteFloat, Document.ofFloat,
        Number.ofFloat?, finite]
  | list items => simp [ofValue, render, Value.IsFiniteFloat]
  | map entries =>
    simp only [ofValue, render, Value.IsFiniteFloat, not_true_eq_false, iff_false]
    split <;> simp [Document.ofFields]

end FieldValue

end Provision
