import Provision.Proofs.Dict
import Provision.Tags

/-! The difference of tags leads from the old ones to the new ones: what is to be removed goes
first, and then what is to be added is set. -/

namespace Provision.Tags

/-- All values of a tag map are texts. -/
def IsTextual (tags : Option Value) : Prop :=
  ∀ entry ∈ (entriesOf tags).entries, entry.2.string?.isSome = true

instance (tags : Option Value) : Decidable (IsTextual tags) :=
  inferInstanceAs (Decidable (∀ entry ∈ (entriesOf tags).entries, _))

/-- A value of a map of texts is the string of a text. -/
theorem IsTextual.exists_string {tags : Option Value} (textual : IsTextual tags)
    {entry : String × Value} (listed : entry ∈ (entriesOf tags).entries) :
    ∃ text, entry.2 = .string text := by
  -- Only strings show a text.
  have shown := textual entry listed
  cases value : entry.2 with
  | string text => exact ⟨text, rfl⟩
  | int | float | bool | list | map =>
    rw [value] at shown
    cases shown

/-- The texts of entries under their keys. -/
def texts (tags : Dict Value) : Dict String where
  entries := tags.entries.filterMap fun entry => entry.2.string?.map (entry.1, ·)
  ordered := by
    -- Entries keep their keys, so they keep their order.
    refine tags.ordered.filterMap _ fun first second below a shown b shownToo => ?_
    obtain ⟨_, -, rfl⟩ := Option.map_eq_some_iff.mp shown
    obtain ⟨_, -, rfl⟩ := Option.map_eq_some_iff.mp shownToo
    exact below

/-- The texts of a tag map; anything else has none. -/
def textsOf (tags : Option Value) : Dict String := texts (entriesOf tags)

/-- The key and the text of a tag as it is sent. -/
def pair? (tag : Document) : Option (String × String) := do
  let key ← (← tag.get? "key").string?
  let text ← (← tag.get? "value").string?
  return (key, text)

/-- The keys and texts of a list of tags. -/
def pairs (listed : List Document) : List (String × String) := listed.filterMap pair?

/-- Tags without those of a list. -/
def without (tags : Dict String) (listed : List Document) : Dict String :=
  tags.filter fun key text => (key, text) ∉ pairs listed

/-- Tags with those of a list set. -/
def setAll (tags : Dict String) (listed : List Document) : Dict String :=
  (pairs listed).foldl (fun tags pair => tags.insert pair.1 pair.2) tags

/-- Tags on the way from old to new ones: without what is to be removed, and with what is to be
added set. -/
def lead (old new : Option Value) (tags : Dict String) : Dict String :=
  setAll (without tags (diff old new).1) (diff old new).2

variable {key text : String}

/-- A text is found where its string is. -/
theorem get?_texts_eq_some_iff {tags : Dict Value} :
    (texts tags).get? key = some text ↔ tags.get? key = some (.string text) := by
  -- Both dictionaries are ordered, so what is found is what is listed.
  rw [Dict.get?, Dict.get?, Entries.get?_eq_some_iff (texts tags).ordered,
    Entries.get?_eq_some_iff tags.ordered]
  constructor
  · intro member
    obtain ⟨⟨_, value⟩, listed, shown⟩ := List.mem_filterMap.mp member
    cases value <;> cases shown
    exact listed
  · intro listed
    exact List.mem_filterMap.mpr ⟨_, listed, rfl⟩

/-- The tags of entries are sent with their keys and texts. -/
theorem pairs_listOf (tags : Dict Value) : pairs (listOf tags) = (texts tags).entries := by
  -- A tag is sent with the key and the text it is read back with.
  rw [pairs, listOf, List.filterMap_filterMap]
  refine List.filterMap_congr fun entry _ => ?_
  obtain ⟨key, value⟩ := entry
  cases shown : value.string? <;> simp [shown, pair?, document, Document.get?, Entries.get?,
    Document.string?]

/-- A list of tags is the list of its keys and texts. -/
theorem listOf_eq (tags : Dict Value) :
    listOf tags = (pairs (listOf tags)).map fun pair => document pair.1 pair.2 := by
  -- Each tag is the document of its own key and text.
  rw [pairs_listOf, texts, List.map_filterMap, listOf]
  refine List.filterMap_congr fun entry _ => ?_
  rw [Option.map_map]
  rfl

/-- Tags without those of a list keep what is not in the list. -/
theorem get?_without (tags : Dict String) (listed : List Document) (key : String) :
    (without tags listed).get? key =
      (tags.get? key).filter fun text => (key, text) ∉ pairs listed :=
  Dict.get?_filter tags _ key

/-- Without nothing, all tags are left. -/
theorem without_nil (tags : Dict String) : without tags [] = tags := by
  -- The test is passed by every tag.
  refine Dict.eq_of_get? fun key => ?_
  rw [get?_without]
  cases tags.get? key <;> simp [pairs, Option.filter]

/-- Tags that are set to those of entries have their texts, and otherwise what they had. -/
theorem get?_setAll (tags : Dict String) (set : Dict Value) (key : String) :
    (setAll tags (listOf set)).get? key =
      (Entries.get? key (pairs (listOf set))).or (tags.get? key) := by
  -- The texts are in order, so the last one under a key is the only one.
  rw [setAll, pairs_listOf, Dict.foldl_insert_get?, ← Dict.get?_ofList, Dict.get?,
    Dict.ofList_entries (texts set).ordered]

/-- A text agrees with that text alone. -/
theorem agreesWith_string_iff {other : Option Value} :
    (Value.string text).agreesWith other = true ↔ other = some (.string text) := by
  -- Values of another sort never agree with a text, and neither does the lack of one.
  cases other with
  | none => exact iff_of_false Bool.false_ne_true (Option.some_ne_none _).symm
  | some value =>
    cases value with
    | string shown =>
      rw [Value.agreesWith, Value.agrees, beq_iff_eq, Option.some_inj, Value.string.injEq]
      exact eq_comm
    | int | float | bool | list | map =>
      refine iff_of_false Bool.false_ne_true fun same => ?_
      cases same

/-- What is to be removed are the old tags that the new ones do not have. -/
theorem mem_removed_iff {old new : Option Value} :
    (key, text) ∈ pairs (diff old new).1 ↔
      (textsOf old).get? key = some text ∧ (textsOf new).get? key ≠ some text := by
  -- An old tag is kept by the difference exactly if the new ones have the same text for it.
  have kept : (!(Value.string text).agreesWith ((entriesOf new).get? key)) = true ↔
      (textsOf new).get? key ≠ some text := by
    rw [Bool.not_eq_true', ← Bool.not_eq_true, agreesWith_string_iff, textsOf, ne_eq,
      get?_texts_eq_some_iff]
  -- What is sent are the texts of the old tags that differ.
  rw [diff, pairs_listOf, ← Entries.get?_eq_some_iff (texts _).ordered]
  change (texts _).get? key = some text ↔ _
  rw [get?_texts_eq_some_iff, Dict.get?_filter, Option.filter_eq_some_iff, kept]
  exact and_congr_left' get?_texts_eq_some_iff.symm

/-- What is to be added is what were to be removed on the way back. -/
theorem diff_snd (old new : Option Value) : (diff old new).2 = (diff new old).1 := rfl

/-- Without the tags to be removed, the old tags are left that the new ones have as well. -/
theorem get?_without_removed (old new : Option Value) (key : String) :
    (without (textsOf old) (diff old new).1).get? key =
      if (textsOf old).get? key = (textsOf new).get? key then (textsOf old).get? key else none := by
  -- What stays under a key is read off text by text.
  rw [get?_without]
  refine Option.ext fun text => ?_
  rw [Option.filter_eq_some_iff, decide_eq_true_eq, mem_removed_iff]
  split
  · -- Where both have the same text it is not removed.
    rename_i same
    rw [← same]
    simp
  · -- Where they differ, a text that stayed would be one of the new tags.
    rename_i different
    simp only [reduceCtorEq, iff_false]
    rintro ⟨had, kept⟩
    have stays : (textsOf new).get? key = some text := by_contra fun gone => kept ⟨had, gone⟩
    exact different (had.trans stays.symm)

/-- Under each key that changes, the tags to be added have the text of the new ones. -/
theorem get?_added (old new : Option Value) (key : String) :
    Entries.get? key (pairs (diff old new).2) =
      if (textsOf old).get? key = (textsOf new).get? key then none else (textsOf new).get? key := by
  -- An added tag is one that would be removed on the way back.
  have ordered : Entries.Ordered (pairs (diff old new).2) := by
    rw [diff, pairs_listOf]
    exact (texts _).ordered
  refine Option.ext fun text => ?_
  rw [Entries.get?_eq_some_iff ordered, diff_snd, mem_removed_iff]
  split
  · -- Nothing is added where both have the same.
    rename_i same
    rw [same]
    simp
  · rename_i different
    refine and_iff_left_of_imp fun has had => different ?_
    rw [had, has]

/-- Lists of tags are the difference of old and new tags. -/
structure IsDifference (old new : Option Value) (removed added : List Document) : Prop where
  /-- Removing the one list and then setting the other leads from the old tags to the new ones. -/
  leads : setAll (without (textsOf old) removed) added = textsOf new
  /-- A tag that stays is in neither list. -/
  spares : ∀ key text, (textsOf old).get? key = some text → (textsOf new).get? key = some text →
    (key, text) ∉ pairs removed ∧ (key, text) ∉ pairs added
  /-- A tag whose text changes is in both lists. -/
  replaces : ∀ key text other, (textsOf old).get? key = some text →
    (textsOf new).get? key = some other → text ≠ other →
    (key, text) ∈ pairs removed ∧ (key, other) ∈ pairs added
  sorted : (pairs removed).Pairwise (·.1 < ·.1) ∧ (pairs added).Pairwise (·.1 < ·.1)
  /-- The lists hold nothing but tags. -/
  plain : removed = (pairs removed).map (fun pair => document pair.1 pair.2) ∧
    added = (pairs added).map fun pair => document pair.1 pair.2

/-- The tags to remove and those to add are the difference. -/
theorem diff_isDifference (old new : Option Value) :
    IsDifference old new (diff old new).1 (diff old new).2 where
  leads := by
    -- Key by key: a text that both have stays, and any other comes from the new tags.
    refine Dict.eq_of_get? fun key => ?_
    have set : (setAll (without (textsOf old) (diff old new).1) (diff old new).2).get? key = _ :=
      get?_setAll _ _ key
    rw [set]
    change (Entries.get? key (pairs (diff old new).2)).or _ = _
    rw [get?_added, get?_without_removed]
    split
    · rename_i same
      rw [Option.none_or, same]
    · exact Option.or_none
  spares := by
    intro key text had keeps
    -- A tag on both sides would have to be missing from one of them.
    rw [diff_snd, mem_removed_iff, mem_removed_iff]
    exact ⟨fun gone => gone.2 keeps, fun fresh => fresh.2 had⟩
  replaces := by
    intro key text other had has different
    rw [diff_snd, mem_removed_iff, mem_removed_iff, had, has]
    exact ⟨⟨rfl, fun same => different (Option.some.inj same).symm⟩,
      ⟨rfl, fun same => different (Option.some.inj same)⟩⟩
  sorted := by
    rw [diff, pairs_listOf, pairs_listOf]
    exact ⟨(texts _).ordered, (texts _).ordered⟩
  plain := ⟨listOf_eq _, listOf_eq _⟩

/-- What is read of the tags of texts is what they were built from. -/
theorem parse_build {tags : Option Value} (textual : IsTextual tags) :
    parse (build tags) = entriesOf tags := by
  -- Each entry is read back by itself, as every value is a text.
  have back : (build tags).filterMap read? = (entriesOf tags).entries := by
    rw [build, listOf, List.filterMap_filterMap]
    refine (List.filterMap_congr fun entry listed => ?_).trans List.filterMap_some
    obtain ⟨text, shown⟩ := textual.exists_string listed
    obtain ⟨key, value⟩ := entry
    cases shown
    rfl
  refine Dict.eq_of_get? fun key => ?_
  rw [parse, back, Dict.get?, Dict.ofList_entries (entriesOf tags).ordered, Dict.get?]

/-- A map of texts holds nothing but its texts. -/
theorem get?_entriesOf {tags : Option Value} (textual : IsTextual tags) (key : String) :
    (entriesOf tags).get? key = ((textsOf tags).get? key).map .string := by
  -- The texts are what is left of the entries, and no entry is lost.
  refine Option.ext fun value => ?_
  rw [Option.map_eq_some_iff]
  constructor
  · intro there
    obtain ⟨text, shown⟩ := textual.exists_string
      ((Entries.get?_eq_some_iff (entriesOf tags).ordered).mp there)
    dsimp only at shown
    subst shown
    exact ⟨text, get?_texts_eq_some_iff.mpr there, rfl⟩
  · -- A text is found where its string is.
    rintro ⟨text, there, rfl⟩
    exact get?_texts_eq_some_iff.mp there

end Provision.Tags
