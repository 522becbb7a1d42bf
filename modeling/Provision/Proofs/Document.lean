import Provision.Proofs.Dict
import Provision.Proofs.Path.Dotted

/-! A document that is made of entries has each of them at its position and nothing else, and there
is no other such document. -/

namespace Provision.Document

/-- A document is an object, with its fields in the order of distinct keys. -/
def IsObject (d : Document) : Prop := ∃ fields, d = .object fields ∧ Entries.Ordered fields

/-- A document is made of entries, each of which is a position and what stands there. -/
structure IsMadeOf (d : Document) (entries : List (List String × Document)) : Prop where
  shows : ∀ entry ∈ entries, d.at? entry.1 = some entry.2
  /-- What does not belong to an entry is an object on the way to one, or the document itself. -/
  only : ∀ keys inner, d.at? keys = some inner →
    (∃ entry ∈ entries, entry.1 <+: keys) ∨
      inner.IsObject ∧ (keys = [] ∨ ∃ entry ∈ entries, keys <+: entry.1)

/-- What is left of an entry inside the value of a field. -/
def below? (key : String) : List String × Document → Option (List String × Document)
  | (first :: rest, shown) => if first = key then some (rest, shown) else none
  | ([], _) => none

/-- An entry inside the value of a field is one that leads there by the key of the field. -/
theorem mem_below_iff {key : String} {path : List String} {shown : Document}
    {entries : List (List String × Document)} :
    (path, shown) ∈ entries.filterMap (below? key) ↔ (key :: path, shown) ∈ entries := by
  -- An entry below the key has lost it, and is found again by putting it back.
  rw [List.mem_filterMap]
  constructor
  · rintro ⟨⟨whole, found⟩, member, inner⟩
    cases whole with
    | nil => cases inner
    | cons first rest =>
      obtain ⟨rfl, same⟩ := Option.ite_none_right_eq_some.mp inner
      cases same
      exact member
  · intro member
    exact ⟨_, member, if_pos rfl⟩

/-- An entry at the start of keys is, inside the field of the first key, one at the start of the
others. -/
theorem exists_below_of_isPrefix {key : String} {keys : List String}
    {entries : List (List String × Document)} (proper : ∀ entry ∈ entries, entry.1 ≠ [])
    {entry : List String × Document} (member : entry ∈ entries) (within : entry.1 <+: key :: keys) :
    ∃ inner ∈ entries.filterMap (below? key), inner.1 <+: keys := by
  -- An entry that is no empty path starts with the first of the keys.
  obtain ⟨path, shown⟩ := entry
  cases path with
  | nil => exact absurd rfl (proper _ member)
  | cons first rest =>
    obtain ⟨same, further⟩ := List.cons_prefix_cons.mp within
    subst same
    exact ⟨(rest, shown), mem_below_iff.mpr member, further⟩

/-- An entry to which keys lead is, inside the field of the first key, one to which the others
lead. -/
theorem exists_below_of_leads {key : String} {keys : List String}
    {entries : List (List String × Document)} {entry : List String × Document}
    (member : entry ∈ entries) (onward : key :: keys <+: entry.1) :
    ∃ inner ∈ entries.filterMap (below? key), keys <+: inner.1 := by
  -- The entry goes on from the keys, so inside the field it goes on from the others.
  obtain ⟨path, shown⟩ := entry
  obtain ⟨rest, rfl⟩ := onward
  exact ⟨(keys ++ rest, shown), mem_below_iff.mpr member, List.prefix_append keys rest⟩

/-- The value of a field is made of what is left of the entries inside it. -/
theorem IsMadeOf.field {d value : Document} {entries : List (List String × Document)}
    (made : d.IsMadeOf entries) (proper : ∀ entry ∈ entries, entry.1 ≠ []) {key : String}
    (found : d.get? key = some value) : value.IsMadeOf (entries.filterMap (below? key)) where
  shows := by
    -- One step into the field is the first step of the whole path.
    rintro ⟨path, shown⟩ member
    have stands := made.shows _ (mem_below_iff.mp member)
    rwa [at?, found, Option.bind_some] at stands
  only := by
    intro keys inner led
    have whole : d.at? (key :: keys) = some inner := by rw [at?, found, Option.bind_some, led]
    -- An entry that has to do with these keys begins with the key of the field.
    rcases made.only _ _ whole with ⟨entry, member, within⟩ |
      ⟨object, nothing | ⟨entry, member, onward⟩⟩
    · exact .inl (exists_below_of_isPrefix proper member within)
    · cases nothing
    · exact .inr ⟨object, .inr (exists_below_of_leads member onward)⟩

/-- A document has the fields through which its entries lead, and no others. -/
theorem IsMadeOf.isSome_get?_iff {d : Document} {entries : List (List String × Document)}
    (made : d.IsMadeOf entries) (proper : ∀ entry ∈ entries, entry.1 ≠ []) (key : String) :
    (d.get? key).isSome = true ↔ ∃ path shown, (key :: path, shown) ∈ entries := by
  -- A field that is there is one of the positions that the entries account for.
  constructor
  · intro there
    obtain ⟨value, found⟩ := Option.isSome_iff_exists.mp there
    have led : d.at? [key] = some value := by
      rw [at?, found, Option.bind_some]
      rfl
    -- The field belongs to an entry, or it lies on the way to one.
    have inside : ∃ inner, inner ∈ entries.filterMap (below? key) := by
      rcases made.only _ _ led with ⟨entry, member, within⟩ |
        ⟨-, nothing | ⟨entry, member, onward⟩⟩
      · obtain ⟨inner, left, -⟩ := exists_below_of_isPrefix proper member within
        exact ⟨inner, left⟩
      · cases nothing
      · obtain ⟨inner, left, -⟩ := exists_below_of_leads member onward
        exact ⟨inner, left⟩
    obtain ⟨⟨path, shown⟩, left⟩ := inside
    exact ⟨path, shown, mem_below_iff.mp left⟩
  · -- The walk to an entry takes its first step through the field.
    rintro ⟨path, shown, member⟩
    obtain ⟨value, found, -⟩ := Option.bind_eq_some_iff.mp (made.shows _ member)
    rw [found]
    rfl

/-- The value of a field is smaller than the document. -/
theorem sizeOf_of_get? {key : String} {d value : Document} (found : d.get? key = some value) :
    sizeOf value < sizeOf d := by
  -- The induction follows the search through the fields.
  cases d with
  | object fields =>
    change Entries.get? key fields = some value at found
    induction fields with
    | nil => cases found
    | cons head rest ih =>
      obtain ⟨k, v⟩ := head
      simp only [Entries.get?] at found
      simp only [object.sizeOf_spec, List.cons.sizeOf_spec, Prod.mk.sizeOf_spec] at ih ⊢
      split at found
      · cases found
        omega
      · have smaller := ih found
        omega
  | null | bool | number | string | array => cases found

/-- There is one document at most that is made of some entries. -/
theorem IsMadeOf.unique {d other : Document} {entries : List (List String × Document)}
    (made : d.IsMadeOf entries) (madeToo : other.IsMadeOf entries) : d = other := by
  -- Either there is an entry for the whole document, or every entry lies inside a field.
  by_cases whole : ∃ entry ∈ entries, entry.1 = []
  · -- An entry at no position is the document itself.
    obtain ⟨⟨path, shown⟩, member, rfl⟩ := whole
    have here := made.shows _ member
    have there := madeToo.shows _ member
    rw [at?] at here there
    exact Option.some.inj (here.trans there.symm)
  · have proper : ∀ entry ∈ entries, entry.1 ≠ [] := fun entry member empty =>
      whole ⟨entry, member, empty⟩
    -- The document itself then stands on the way to its entries, if there are any.
    have isObject {either : Document} (made : either.IsMadeOf entries) : either.IsObject := by
      rcases made.only [] either rfl with ⟨entry, member, within⟩ | ⟨object, -⟩
      · exact absurd (List.prefix_nil.mp within) (proper entry member)
      · exact object
    obtain ⟨fields, rfl, ordered⟩ := isObject made
    obtain ⟨others, rfl, orderedToo⟩ := isObject madeToo
    -- Both are objects with the same fields, and a field is smaller than the document.
    congr 1
    refine Entries.eq_of_get? ordered orderedToo fun key => ?_
    have present :=
      (made.isSome_get?_iff proper key).trans (madeToo.isSome_get?_iff proper key).symm
    change get? key (.object fields) = get? key (.object others)
    cases found : get? key (.object fields) with
    | none =>
      rw [found] at present
      refine (Option.not_isSome_iff_eq_none.mp fun there => ?_).symm
      exact Bool.false_ne_true (present.mpr there)
    | some value =>
      rw [found] at present
      obtain ⟨value', foundToo⟩ := Option.isSome_iff_exists.mp (present.mp rfl)
      have smaller : sizeOf value < sizeOf (Document.object fields) := sizeOf_of_get? found
      rw [foundToo, unique (made.field proper found) (madeToo.field proper foundToo)]
termination_by sizeOf d

end Provision.Document
