import Mathlib.Data.List.Sort
import Provision.Dict

/-! Insertion into a dictionary changes what is found under one key only. -/

namespace Provision

variable {α : Type}

namespace Entries

/-- Under the key of an insertion is the new value, and under any other what was there before. -/
theorem get?_insert (key other : String) (value : α) (entries : List (String × α)) :
    get? other (insert key value entries) =
      if key = other then some value else get? other entries := by
  -- The new entry goes before the head, replaces it, or goes somewhere behind it.
  induction entries with
  | nil => simp [insert, get?]
  | cons head rest ih =>
    obtain ⟨k, v⟩ := head
    simp only [insert]
    split
    · simp [get?]
    · split
      · rename_i same
        subst same
        simp only [get?]
        split <;> rfl
      · rename_i different
        -- The head keeps its key, which is not the new one.
        simp only [get?, ih]
        by_cases here : k = other
        · rw [if_pos here, if_pos here, if_neg fun same => different (same.trans here.symm)]
        · rw [if_neg here, if_neg here]

/-- Nothing is found under a key that no entry has. -/
theorem get?_eq_none {key : String} {entries : List (String × α)}
    (absent : ∀ entry ∈ entries, entry.1 ≠ key) : get? key entries = none := by
  -- No entry is passed over for another one, so the search runs through all of them.
  induction entries with
  | nil => rfl
  | cons head rest ih =>
    rw [get?, if_neg (absent head (by simp)),
      ih fun entry member => absent entry (List.mem_cons_of_mem head member)]

/-- Nothing is found under a key that lies before all others. -/
theorem get?_of_below {key : String} {entries : List (String × α)}
    (below : ∀ entry ∈ entries, key < entry.1) : get? key entries = none :=
  get?_eq_none fun entry member same => String.lt_irrefl key (same ▸ below entry member)

/-- Keys that are in order are distinct. -/
theorem Ordered.nodup {entries : List (String × α)} (ordered : Ordered entries) :
    (entries.map (·.1)).Nodup := by
  -- An entry under the same key as a later one would not be smaller.
  refine List.pairwise_map.mpr (ordered.imp fun {a b} less same => ?_)
  rw [same] at less
  exact String.lt_irrefl b.1 less

/-- Under distinct keys in any order, a value is found exactly where its entry is. -/
theorem get?_eq_some_iff_of_nodup {entries : List (String × α)}
    (distinct : (entries.map (·.1)).Nodup) {key : String} {value : α} :
    get? key entries = some value ↔ (key, value) ∈ entries := by
  -- The induction follows the search, which ends at the first entry with the key.
  induction entries with
  | nil => simp [get?]
  | cons head rest ih =>
    obtain ⟨k, v⟩ := head
    obtain ⟨alone, tail⟩ := List.nodup_cons.mp distinct
    simp only [get?, List.mem_cons, Prod.mk.injEq]
    by_cases here : k = key
    · -- The head has the key, and no later entry has it.
      subst here
      have absent : (k, value) ∉ rest := fun later => alone (List.mem_map.mpr ⟨_, later, rfl⟩)
      simp [absent, eq_comm]
    · have other : ¬(key = k ∧ value = v) := fun same => here same.1.symm
      simp only [if_neg here, ih tail, other, false_or]

/-- In the order of distinct keys, a value is found exactly where its entry is. -/
theorem get?_eq_some_iff {entries : List (String × α)} (ordered : Ordered entries) {key : String}
    {value : α} : get? key entries = some value ↔ (key, value) ∈ entries :=
  get?_eq_some_iff_of_nodup ordered.nodup

/-- Under distinct keys, what is found does not depend on the order of the entries. -/
theorem get?_perm {first second : List (String × α)} (distinct : (second.map (·.1)).Nodup)
    (reordered : first.Perm second) (key : String) : get? key first = get? key second := by
  -- A value is found exactly where its entry is, and membership knows no order.
  have distinctToo : (first.map (·.1)).Nodup := (reordered.map _).nodup_iff.mpr distinct
  refine Option.ext fun value => ?_
  rw [get?_eq_some_iff_of_nodup distinctToo, get?_eq_some_iff_of_nodup distinct,
    reordered.mem_iff]

/-- A key larger than all others is inserted at the end. -/
theorem insert_of_above {key : String} {value : α} {entries : List (String × α)}
    (above : ∀ entry ∈ entries, entry.1 < key) :
    insert key value entries = entries ++ [(key, value)] := by
  -- Each entry is passed, as the new key is neither smaller nor the same.
  induction entries with
  | nil => rfl
  | cons head rest ih =>
    have passed : head.1 < key := above head (by simp)
    have notBelow : ¬key < head.1 := fun below =>
      String.lt_irrefl key (String.lt_trans below passed)
    have notSame : key ≠ head.1 := fun same => String.lt_irrefl key (same ▸ passed)
    rw [insert, if_neg notBelow, if_neg notSame,
      ih fun entry member => above entry (List.mem_cons_of_mem head member), List.cons_append]

/-- Entries in the order of distinct keys are determined by what is found under each key. -/
theorem eq_of_get? {first second : List (String × α)} (ordered : Ordered first)
    (orderedToo : Ordered second) (same : ∀ key, get? key first = get? key second) :
    first = second := by
  -- Two strictly ordered lists with the same members are equal.
  have antisymm : Std.Antisymm (fun a b : String × α => a.1 < b.1) :=
    ⟨fun a b less more => absurd (String.lt_trans less more) (String.lt_irrefl a.1)⟩
  have irrefl : Std.Irrefl (fun a b : String × α => a.1 < b.1) :=
    ⟨fun entry => String.lt_irrefl entry.1⟩
  refine List.Pairwise.eq_of_mem_iff ordered orderedToo fun entry => ?_
  rw [← get?_eq_some_iff ordered, ← get?_eq_some_iff orderedToo, same]

end Entries

namespace Dict

/-- A dictionary is determined by what is found under each key. -/
theorem eq_of_get? {first second : Dict α} (same : ∀ key, first.get? key = second.get? key) :
    first = second := by
  -- The entries are in order on both sides, so they are settled by what is found.
  have entries : first.entries = second.entries :=
    Entries.eq_of_get? first.ordered second.ordered same
  cases first
  cases second
  cases entries
  rfl

/-- An insertion is found under its key. -/
theorem get?_insert (d : Dict α) (key other : String) (value : α) :
    (d.insert key value).get? other = if key = other then some value else d.get? other :=
  Entries.get?_insert key other value d.entries

/-- Entries in the order of their keys are put into a dictionary one behind the other. -/
theorem foldl_insert_entries {entries : List (String × α)} (ordered : Entries.Ordered entries)
    (d : Dict α) (above : ∀ old ∈ d.entries, ∀ new ∈ entries, old.1 < new.1) :
    (entries.foldl (fun d e => d.insert e.1 e.2) d).entries = d.entries ++ entries := by
  -- What is there already stays in front of all that is still to come.
  induction entries generalizing d with
  | nil => simp
  | cons head rest ih =>
    obtain ⟨below, tail⟩ := List.pairwise_cons.mp ordered
    have atEnd : (d.insert head.1 head.2).entries = d.entries ++ [head] :=
      Entries.insert_of_above fun old member => above old member head (by simp)
    have onward : ∀ old ∈ (d.insert head.1 head.2).entries, ∀ new ∈ rest, old.1 < new.1 := by
      intro old member new later
      rw [atEnd] at member
      rcases List.mem_append.mp member with earlier | last
      · exact above old earlier new (List.mem_cons_of_mem head later)
      · rw [List.mem_singleton.mp last]
        exact below new later
    rw [List.foldl_cons, ih tail _ onward, atEnd, List.append_assoc, List.singleton_append]

/-- The dictionary of entries that are in order has just these entries. -/
theorem ofList_entries {entries : List (String × α)} (ordered : Entries.Ordered entries) :
    (ofList entries).entries = entries :=
  foldl_insert_entries ordered empty fun _ member => nomatch member

/-- After entries are put into a dictionary, the last of them under a key is found there. -/
theorem foldl_insert_get? (entries : List (String × α)) (key : String) (d : Dict α) :
    (entries.foldl (fun d e => d.insert e.1 e.2) d).get? key =
      ((entries.filter (·.1 = key)).getLast?.map (·.2)).or (d.get? key) := by
  -- Every later entry under the key takes the place of an earlier one.
  induction entries generalizing d with
  | nil => simp
  | cons head rest ih =>
    rw [List.foldl_cons, ih, get?_insert, List.filter_cons]
    by_cases here : head.1 = key
    · simp only [here, decide_true, if_true, List.getLast?_cons, Option.map_some, Option.some_or]
      cases (rest.filter (·.1 = key)).getLast? <;> rfl
    · simp [here]

/-- Of entries under one key the last one counts. -/
theorem get?_ofList (entries : List (String × α)) (key : String) :
    (ofList entries).get? key = (entries.filter (·.1 = key)).getLast?.map (·.2) := by
  -- The empty dictionary has nothing under the key.
  rw [ofList, foldl_insert_get?]
  exact Option.or_none

/-- Entries under distinct keys are found in the dictionary as they are in the list. -/
theorem get?_ofList_of_nodup {entries : List (String × α)} (distinct : (entries.map (·.1)).Nodup)
    (key : String) : (ofList entries).get? key = Entries.get? key entries := by
  refine Option.ext fun value => ?_
  rw [get?_ofList, Entries.get?_eq_some_iff_of_nodup distinct, Option.map_eq_some_iff]
  constructor
  · rintro ⟨entry, last, rfl⟩
    obtain ⟨member, named⟩ := List.mem_filter.mp (List.mem_of_getLast? last)
    rw [← of_decide_eq_true named]
    exact member
  · intro member
    -- The entry is one of those under its key, and there are no others.
    have kept : (key, value) ∈ entries.filter (·.1 = key) := by simpa using member
    obtain ⟨last, found⟩ := Option.isSome_iff_exists.mp
      (List.getLast?_isSome.mpr (List.ne_nil_of_mem kept))
    obtain ⟨there, named⟩ := List.mem_filter.mp (List.mem_of_getLast? found)
    have same := List.inj_on_of_nodup_map distinct there member (of_decide_eq_true named)
    exact ⟨last, found, congrArg (·.2) same⟩

/-- Entries under distinct keys make the same dictionary in every order. -/
theorem ofList_perm {first second : List (String × α)} (distinct : (second.map (·.1)).Nodup)
    (reordered : first.Perm second) : ofList first = ofList second := by
  -- A dictionary is settled by what is found, which is the same in every order.
  have distinctToo : (first.map (·.1)).Nodup := (reordered.map _).nodup_iff.mpr distinct
  refine eq_of_get? fun key => ?_
  rw [get?_ofList_of_nodup distinctToo, get?_ofList_of_nodup distinct,
    Entries.get?_perm distinct reordered]

/-- The keys are listed from the smallest to the largest. -/
theorem keys_ordered (d : Dict α) : d.keys.Pairwise (· < ·) :=
  List.pairwise_map.mpr d.ordered

/-- A dictionary without a value under any key is empty. -/
theorem eq_empty_iff {d : Dict α} : d = empty ↔ ∀ key, d.get? key = none := by
  constructor
  · rintro rfl key
    rfl
  · -- Any entry would be found under its own key.
    intro absent
    obtain ⟨entries, ordered⟩ := d
    cases entries with
    | nil => rfl
    | cons head rest =>
      -- The first entry would be found under its own key.
      have first := absent head.1
      simp [get?, Entries.get?] at first

/-- An entry that passes a test is still found under its key, and no other. -/
theorem get?_filter (d : Dict α) (keep : String → α → Bool) (key : String) :
    (d.filter keep).get? key = (d.get? key).filter (keep key) := by
  -- What is found is an entry, and it passes the test or not.
  refine Option.ext fun value => ?_
  rw [Option.filter_eq_some_iff, get?, get?, Entries.get?_eq_some_iff (d.filter keep).ordered,
    Entries.get?_eq_some_iff d.ordered]
  exact List.mem_filter

/-- The keys that pass a test are those whose values do. -/
theorem mem_keys_filter_iff {d : Dict α} {keep : String → α → Bool} {key : String} :
    key ∈ (d.filter keep).keys ↔ ∃ value, d.get? key = some value ∧ keep key value = true := by
  -- Every key has one value, so an entry that passes the test is the one that is looked up.
  simp only [keys, filter, get?, List.mem_map, List.mem_filter, Prod.exists,
    Entries.get?_eq_some_iff d.ordered]
  constructor
  · rintro ⟨_, value, ⟨member, kept⟩, rfl⟩
    exact ⟨value, member, kept⟩
  · rintro ⟨value, member, kept⟩
    exact ⟨key, value, ⟨member, kept⟩, rfl⟩

/-- An insertion that replaces nothing is found only where there was nothing before. -/
theorem get?_insertNew (d : Dict α) (key other : String) (value : α) :
    (d.insertNew key value).get? other =
      (d.get? other).or (if key = other then some value else none) := by
  unfold insertNew contains
  split
  · rename_i there
    -- Under the key is something already, and that stays.
    split
    · rename_i same
      rw [same] at there
      rw [Option.or_of_isSome there]
    · rw [Option.or_none]
  · rename_i free
    rw [get?_insert]
    split
    · rename_i same
      rw [same, Option.not_isSome_iff_eq_none] at free
      rw [free, Option.none_or]
    · rw [Option.or_none]

end Dict

end Provision
