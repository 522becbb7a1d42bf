import Provision.Proofs.Binary64
import Provision.Proofs.Value

/-! Documents and values convert into each other: a document is read without its nulls, and a value
comes back if it has a document at all, the one that a body shows as well. -/

namespace Provision

/-- A finite double is a number. -/
theorem Binary64.not_isNaN_of_isFinite {x : Binary64} (finite : x.isFinite = true) :
    x.isNaN = false := by
  simp_all [isFinite, isNaN]

/-- A double that agrees with a finite one is finite. -/
theorem Binary64.isFinite_of_agrees {x y : Binary64} (agree : x.agrees y = true)
    (finite : y.isFinite = true) : x.isFinite = true := by
  -- Doubles agree if they are the same, or if both are zeros.
  simp only [agrees, Bool.and_eq_true, Bool.or_eq_true, beq_iff_eq] at agree
  rcases agree.2 with same | ⟨zero, -⟩
  · rwa [same]
  · simp_all [isZero, isFinite]

namespace Value

mutual

/-- The value that a document is read as. An integer above those of 64 bits with sign is read as a
double. -/
inductive Reads : Document → Value → Prop where
  | bool (b : Bool) : Reads (.bool b) (.bool b)
  | string (s : String) : Reads (.string s) (.string s)
  | int {n : Int} {low : -9223372036854775808 ≤ n} {high : n < 18446744073709551616} {m : Int64} :
      m.toInt = n → Reads (.number (.int n low high)) (.int m)
  | largeInt {n : Int} {low : -9223372036854775808 ≤ n} {high : n < 18446744073709551616} :
      9223372036854775808 ≤ n → Reads (.number (.int n low high)) (.float (.ofInt n))
  | float (x : Binary64) (finite : x.isFinite = true) :
      Reads (.number (.float x finite)) (.float x)
  | array {items : List Document} {values : List Value} : ReadsItems items values →
      Reads (.array items) (.list values)
  | object {fields : List (String × Document)} {entries : List (String × Value)} :
      ReadsFields fields entries → Reads (.object fields) (.map entries)

/-- The values that items are read as, in order and without the nulls. -/
inductive ReadsItems : List Document → List Value → Prop where
  | nil : ReadsItems [] []
  | null {items : List Document} {values : List Value} : ReadsItems items values →
      ReadsItems (.null :: items) values
  | cons {item : Document} {value : Value} {items : List Document} {values : List Value} :
      Reads item value → ReadsItems items values → ReadsItems (item :: items) (value :: values)

/-- The entries that fields are read as, under their keys and without the nulls. -/
inductive ReadsFields : List (String × Document) → List (String × Value) → Prop where
  | nil : ReadsFields [] []
  | null {key : String} {fields : List (String × Document)} {entries : List (String × Value)} :
      ReadsFields fields entries → ReadsFields ((key, .null) :: fields) entries
  | cons {key : String} {field : Document} {value : Value} {fields : List (String × Document)}
      {entries : List (String × Value)} : Reads field value → ReadsFields fields entries →
      ReadsFields ((key, field) :: fields) ((key, value) :: entries)

end

/-- Only null has no value. -/
theorem ofDocument?_eq_none_iff {d : Document} : ofDocument? d = none ↔ d = .null := by
  cases d <;> simp [ofDocument?]

/-- A number is read as an integer of 64 bits with sign as far as these go. -/
theorem reads_number_iff {number : Number} {value : Value} :
    Reads (.number number) value ↔ ofNumber number = value := by
  -- The bound of 64 bits with sign tells the two readings of an integer apart.
  constructor
  · intro reads
    cases reads with
    | @int n _ _ m same =>
      have high := m.toInt_lt
      rw [ofNumber, if_pos (by omega), ← same, Int64.ofInt_toInt]
    | largeInt large => rw [ofNumber, if_neg (by omega)]
    | float x finite => rfl
  · rintro rfl
    cases number with
    | int n low high =>
      rw [ofNumber]
      split
      · -- Within the bound the integer is kept exactly.
        exact .int (Int64.toInt_ofInt_of_le (by omega) (by omega))
      · exact .largeInt (by omega)
    | float x finite => exact .float x finite

mutual

/-- A document is read as its value, if it has one. -/
theorem reads_of_ofDocument? {d : Document} {value : Value} (read : ofDocument? d = some value) :
    Reads d value := by
  -- There is a case for each form of documents, of which null has no value.
  cases d with
  | null => cases read
  | bool b => cases read; exact .bool b
  | number n => exact reads_number_iff.mpr (Option.some.inj read)
  | string s => cases read; exact .string s
  | array items => cases read; exact .array (readsItems_ofItems items)
  | object fields => cases read; exact .object (readsFields_ofFields fields)

/-- Items are read as the values that they have. -/
theorem readsItems_ofItems (items : List Document) : ReadsItems items (ofItems items) := by
  -- Only a null is without a value, and it is passed over.
  cases items with
  | nil => exact .nil
  | cons item rest =>
    rw [ofItems]
    split
    · rename_i value read
      exact .cons (reads_of_ofDocument? read) (readsItems_ofItems rest)
    · rename_i missing
      rw [ofDocument?_eq_none_iff.mp missing]
      exact .null (readsItems_ofItems rest)

/-- Fields are read as the entries of the values that they have. -/
theorem readsFields_ofFields (fields : List (String × Document)) :
    ReadsFields fields (ofFields fields) := by
  -- A field that is null is passed over with its key.
  cases fields with
  | nil => exact .nil
  | cons head rest =>
    obtain ⟨key, field⟩ := head
    rw [ofFields]
    split
    · rename_i value read
      exact .cons (reads_of_ofDocument? read) (readsFields_ofFields rest)
    · rename_i missing
      rw [ofDocument?_eq_none_iff.mp missing]
      exact .null (readsFields_ofFields rest)

end

mutual

/-- A document has no value but the one it is read as. -/
theorem Reads.ofDocument? {d : Document} {value : Value} (reads : Reads d value) :
    Value.ofDocument? d = some value := by
  -- Each form of the relation is a line of the conversion.
  cases reads with
  | bool | string => rfl
  | int same => exact congrArg some (reads_number_iff.mp (.int same))
  | largeInt large => exact congrArg some (reads_number_iff.mp (.largeInt large))
  | float x finite => rfl
  | array items => rw [Value.ofDocument?, items.ofItems]
  | object fields => rw [Value.ofDocument?, fields.ofFields]

/-- Items have no values but those they are read as. -/
theorem ReadsItems.ofItems {items : List Document} {values : List Value}
    (reads : ReadsItems items values) : Value.ofItems items = values := by
  -- An item that is null adds nothing to the values.
  cases reads with
  | nil => rfl
  | null rest => rw [Value.ofItems, Value.ofDocument?, rest.ofItems]
  | cons item rest => rw [Value.ofItems, item.ofDocument?, rest.ofItems]

/-- Fields have no entries but those they are read as. -/
theorem ReadsFields.ofFields {fields : List (String × Document)} {entries : List (String × Value)}
    (reads : ReadsFields fields entries) : Value.ofFields fields = entries := by
  -- A field that is null adds no entry.
  cases reads with
  | nil => rfl
  | null rest => rw [Value.ofFields, Value.ofDocument?, rest.ofFields]
  | cons field rest => rw [Value.ofFields, field.ofDocument?, rest.ofFields]

end

mutual

/-- Every double in a value that a document is read as is finite. -/
theorem Reads.isFinite {d : Document} {value : Value} (reads : Reads d value) :
    value.IsFinite := by
  -- The doubles of documents are finite, and so are those made from integers.
  cases reads with
  | bool | string | int => trivial
  | @largeInt n _ high large =>
    -- An integer of 64 bits is far below the largest double.
    obtain ⟨m, rfl⟩ := Int.eq_ofNat_of_zero_le (show 0 ≤ n by omega)
    exact (Binary64.ofInt_nearest (by omega) (by omega)).1
  | float x finite => exact finite
  | array items => exact ⟨trivial, items.isFinite⟩
  | object fields => exact ⟨trivial, fields.isFinite⟩

/-- Every double in the values that items are read as is finite. -/
theorem ReadsItems.isFinite {items : List Document} {values : List Value}
    (reads : ReadsItems items values) : InItems IsFiniteFloat values := by
  -- Items that are null leave nothing that could be infinite.
  cases reads with
  | nil => trivial
  | null rest => exact rest.isFinite
  | cons item rest => exact ⟨item.isFinite, rest.isFinite⟩

/-- Every double in the entries that fields are read as is finite. -/
theorem ReadsFields.isFinite {fields : List (String × Document)} {entries : List (String × Value)}
    (reads : ReadsFields fields entries) : InEntries IsFiniteFloat entries := by
  -- So do fields that are null.
  cases reads with
  | nil => trivial
  | null rest => exact rest.isFinite
  | cons field rest => exact ⟨field.isFinite, rest.isFinite⟩

end

mutual

/-- A property that implies another one throughout a value. -/
theorem Throughout.imp {holds also : Value → Prop} (implies : ∀ v, holds v → also v) {v : Value}
    (all : v.Throughout holds) : v.Throughout also := by
  -- The property is taken over at the value itself, and then in all that is inside.
  cases v with
  | list items => exact ⟨implies _ all.1, InItems.imp implies all.2⟩
  | map entries => exact ⟨implies _ all.1, InEntries.imp implies all.2⟩
  | string | int | float | bool => exact implies _ all

/-- A property that implies another one throughout items. -/
theorem InItems.imp {holds also : Value → Prop} (implies : ∀ v, holds v → also v)
    {items : List Value} (all : InItems holds items) : InItems also items := by
  cases items with
  | nil => trivial
  | cons item rest => exact ⟨all.1.imp implies, InItems.imp implies all.2⟩

/-- A property that implies another one throughout entries. -/
theorem InEntries.imp {holds also : Value → Prop} (implies : ∀ v, holds v → also v)
    {entries : List (String × Value)} (all : InEntries holds entries) :
    InEntries also entries := by
  cases entries with
  | nil => trivial
  | cons head rest => exact ⟨all.1.imp implies, InEntries.imp implies all.2⟩

end

/-- Finite doubles are numbers. -/
theorem IsFinite.isNumeric {v : Value} (finite : v.IsFinite) : v.IsNumeric :=
  finite.imp fun inner held => by
    cases inner with
    | float x => exact Binary64.not_isNaN_of_isFinite held
    | string | int | bool | list | map => trivial

mutual

/-- A value that agrees with one whose doubles are finite has finite doubles. -/
theorem isFinite_of_agrees {v w : Value} (agree : v.agrees w = true) (finite : w.IsFinite) :
    v.IsFinite := by
  -- Values of different kinds never agree.
  cases v <;> cases w <;> try cases agree
  case float.float => exact Binary64.isFinite_of_agrees agree finite
  case list.list => exact ⟨trivial, isFinite_of_agreeItems agree finite.2⟩
  case map.map => exact ⟨trivial, isFinite_of_agreeEntries agree finite.2⟩
  all_goals trivial

/-- Items that agree with some whose doubles are finite have finite doubles. -/
theorem isFinite_of_agreeItems {items others : List Value} (agree : agreeItems items others = true)
    (finite : InItems IsFiniteFloat others) : InItems IsFiniteFloat items := by
  -- Lists that agree are equally long and agree item by item.
  cases items with
  | nil => trivial
  | cons item rest =>
    cases others with
    | nil => cases agree
    | cons other others =>
      rw [agreeItems, Bool.and_eq_true] at agree
      exact ⟨isFinite_of_agrees agree.1 finite.1, isFinite_of_agreeItems agree.2 finite.2⟩

/-- Entries that agree with some whose doubles are finite have finite doubles. -/
theorem isFinite_of_agreeEntries {entries others : List (String × Value)}
    (agree : agreeEntries entries others = true) (finite : InEntries IsFiniteFloat others) :
    InEntries IsFiniteFloat entries := by
  -- Entries that agree do so under equal keys, which are of no interest here.
  cases entries with
  | nil => trivial
  | cons entry rest =>
    cases others with
    | nil => cases agree
    | cons other others =>
      rw [agreeEntries, Bool.and_eq_true, Bool.and_eq_true] at agree
      exact ⟨isFinite_of_agrees agree.1.2 finite.1, isFinite_of_agreeEntries agree.2 finite.2⟩

end

/-- A value is read back from its document exactly when its doubles are finite. -/
theorem ofDocument?_toDocument_iff {v : Value} :
    ofDocument? v.toDocument = some v ↔ v.IsFinite :=
  ⟨fun back => (reads_of_ofDocument? back).isFinite, v.ofDocument?_toDocument⟩

/-- A value agrees with what is read from its document exactly when its doubles are finite. -/
theorem agreesWith_toDocument_iff {v : Value} :
    v.agreesWith (ofDocument? v.toDocument) = true ↔ v.IsFinite := by
  -- What was read from a document has finite doubles, and so has all that agrees with it.
  constructor
  · intro agree
    cases read : ofDocument? v.toDocument with
    | none =>
      rw [read] at agree
      cases agree
    | some back =>
      rw [read] at agree
      exact isFinite_of_agrees agree (reads_of_ofDocument? read).isFinite
  · intro finite
    rw [v.ofDocument?_toDocument finite]
    exact v.agrees_self_iff.mpr finite.isNumeric

/-- A field that holds a value is the whole body as its document. -/
theorem ofBody_ofValue {v : Value} (ordered : v.IsOrdered) (key : String) (optional : Bool) :
    Document.ofBody [⟨key, optional, .ofValue v⟩] = .object [(key, v.toDocument)] := by
  -- The fields of a body with a single one are in order.
  have single : Entries.Ordered [(key, v.toDocument)] := List.pairwise_singleton _ _
  simp only [Document.ofBody, FieldValue.renderFields, FieldValue.render_ofValue v ordered,
    Document.ofFields, Dict.ofList_entries single]

/-- A value whose maps are in key order is read back from its document exactly when all doubles in
it are finite, and a body shows it as that document. A document other than null is read as itself
without its nulls, its integers above those of 64 bits with sign as the nearest doubles, and what is
read from it is read back from its own document. -/
theorem conversions_agree (v : Value) (ordered : v.IsOrdered) :
    ((ofDocument? v.toDocument = some v ↔ v.IsFinite) ∧
      (v.agreesWith (ofDocument? v.toDocument) = true ↔ v.IsFinite)) ∧
    ((FieldValue.ofAttribute (some v)).render = some v.toDocument ∧
      ∀ key optional, Document.ofBody [⟨key, optional, .ofAttribute (some v)⟩] =
        .object [(key, v.toDocument)]) ∧
    (∀ d, (ofDocument? d = none ↔ d = .null) ∧
      ∀ w, (ofDocument? d = some w ↔ Reads d w) ∧
        (Reads d w → ofDocument? w.toDocument = some w ∧
          w.agreesWith (ofDocument? w.toDocument) = true)) ∧
    ∀ n : Nat, 9223372036854775808 ≤ n → n < 18446744073709551616 →
      (Binary64.ofInt n).isFinite = true ∧
        ∀ x : Binary64, |(Binary64.ofInt n).toRat - n| ≤ |x.toRat - n| := by
  -- The round trip, the body, the reading and the large integers are independent of each other.
  refine ⟨⟨ofDocument?_toDocument_iff, agreesWith_toDocument_iff⟩, ⟨?_, ofBody_ofValue ordered⟩,
    fun d => ?_, fun n low high => ?_⟩
  · exact FieldValue.render_ofValue v ordered
  · refine ⟨ofDocument?_eq_none_iff, fun w => ⟨⟨reads_of_ofDocument?, Reads.ofDocument?⟩, ?_⟩⟩
    intro reads
    exact ⟨ofDocument?_toDocument_iff.mpr reads.isFinite,
      agreesWith_toDocument_iff.mpr reads.isFinite⟩
  · exact Binary64.ofInt_nearest (by omega) high

/-- Empty lists and maps inside a value come back, and a body shows them. -/
theorem conversions_agree_empty :
    (map [("a", list [list [], map []]), ("b", int (-1))]).IsOrdered ∧
      ofDocument? (toDocument (map [("a", list [list [], map []]), ("b", int (-1))])) =
        some (map [("a", list [list [], map []]), ("b", int (-1))]) ∧
      (FieldValue.ofAttribute (map [("a", list [list [], map []]), ("b", int (-1))])).render =
        some (toDocument (map [("a", list [list [], map []]), ("b", int (-1))])) := by
  -- The maps are in key order, and there is no double in the value.
  have ordered : (map [("a", list [list [], map []]), ("b", int (-1))]).IsOrdered := by
    simp only [IsOrdered, Throughout, InItems, InEntries, IsOrderedMap, Entries.Ordered]
    decide
  obtain ⟨⟨back, -⟩, ⟨shown, -⟩, -⟩ := conversions_agree _ ordered
  refine ⟨ordered, back.mpr ?_, shown⟩
  simp [IsFinite, Throughout, InItems, InEntries, IsFiniteFloat]

end Value

end Provision
