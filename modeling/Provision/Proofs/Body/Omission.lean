import Provision.Proofs.Body.Extent

/-! A body leaves out what is unset and nothing else. Under each key stands what the last field
there that counts has to show, and the objects and lists inside it follow the same rule. -/

namespace Provision

namespace FieldValue

/-- What holds of a value whenever it holds of all values inside it, holds of every value. -/
@[elab_as_elim]
theorem induction {motive : FieldValue → Prop} (absent : motive absent)
    (scalar : ∀ document, motive (scalar document))
    (object : ∀ fields : List Field, (∀ field ∈ fields, motive field.value) →
      motive (object fields))
    (list : ∀ items, (∀ item ∈ items, motive item) → motive (list items)) (value : FieldValue) :
    motive value := by
  -- Whatever stands inside a value is smaller than the value.
  match value with
  | .absent => exact absent
  | .scalar document => exact scalar document
  | .object fields =>
    refine object fields fun field member => ?_
    have smaller : sizeOf field.value < 1 + sizeOf fields := by
      have inside := List.sizeOf_lt_of_mem member
      obtain ⟨key, optional, inner⟩ := field
      simp only [Slot.mk.sizeOf_spec] at inside ⊢
      omega
    exact induction absent scalar object list field.value
  | .list items =>
    refine list items fun item member => ?_
    have inside := List.sizeOf_lt_of_mem member
    exact induction absent scalar object list item
termination_by sizeOf value

/-- A value is unset if nothing was given, or if it is an object that has fields but only such as
may be left out and are unset themselves. -/
inductive IsUnset : FieldValue → Prop where
  | absent : IsUnset absent
  | object {fields : List Field} : fields ≠ [] →
      (∀ field ∈ fields, Slot.optional field = true) → (∀ field ∈ fields, IsUnset field.value) →
      IsUnset (object fields)

/-- The values that are not rendered are those that are unset. -/
theorem render_eq_none_iff (value : FieldValue) : value.render = none ↔ value.IsUnset := by
  -- Only whether an object is unset depends on what is inside it.
  induction value using FieldValue.induction with
  | absent => exact iff_of_true rfl .absent
  | scalar document => exact iff_of_false (by simp [render]) nofun
  | list items ih => exact iff_of_false (by simp [render]) nofun
  | object fields ih =>
    rw [Body.render_object_eq_none_iff]
    simp only [Body.AreSilent, Body.shown?_eq_none_iff]
    -- An object is left out when all its fields show nothing.
    constructor
    · rintro ⟨some, silent⟩
      exact .object some (fun field member => (silent field member).1) fun field member =>
        (ih field member).mp (silent field member).2
    · rintro (_ | ⟨some, optional, unset⟩)
      exact ⟨some, fun field member => ⟨optional field member,
        (ih field member).mpr (unset field member)⟩⟩

instance (value : FieldValue) : Decidable value.IsUnset :=
  decidable_of_iff (value.render.isNone = true) <| by
    rw [Option.isNone_iff_eq_none, render_eq_none_iff]

end FieldValue

/-- A field counts in a body unless it may be left out and its value is unset. -/
def Field.Counts (field : Field) : Prop := Slot.optional field = false ∨ ¬field.value.IsUnset

/-- A field is the last one under a key that counts. -/
def Field.IsLastUnder (field : Field) (key : String) (fields : List Field) : Prop :=
  ∃ before after, fields = before ++ field :: after ∧ field.key = key ∧ field.Counts ∧
    ∀ later ∈ after, later.key = key → ¬later.Counts

namespace Field.IsLastUnder

variable {field : Field} {key : String} {fields : List Field}

/-- The last field under a key that counts is one of the fields. -/
theorem mem (last : field.IsLastUnder key fields) : field ∈ fields := by
  obtain ⟨before, after, rfl, -⟩ := last
  simp

/-- The last field under a key that counts does count. -/
theorem counts (last : field.IsLastUnder key fields) : field.Counts := by
  obtain ⟨_, _, -, -, counts, -⟩ := last
  exact counts

end Field.IsLastUnder

mutual

/-- What a value that is set shows in a body. A list shows its items that are set, in order. -/
inductive FieldValue.Shows : FieldValue → Document → Prop where
  | scalar (document : Document) : FieldValue.Shows (.scalar document) document
  | list {items : List FieldValue} {shown : List Document} :
      List.Forall₂ FieldValue.Shows (items.filter fun item => ¬item.IsUnset) shown →
      FieldValue.Shows (.list items) (.array shown)
  | object {fields : List Field} {shown : Document} : ¬(FieldValue.object fields).IsUnset →
      Body.Shows fields shown → FieldValue.Shows (.object fields) shown

/-- What fields show in a body: an object, in key order, with an entry under each key that has a
field that counts. The last such field gives the entry, which is null if that field is unset. -/
inductive Body.Shows : List Field → Document → Prop where
  | object {fields : List Field} {entries : List (String × Document)} (source : String → Field) :
      Entries.Ordered entries →
      (∀ field ∈ fields, field.Counts → ∃ entry ∈ entries, entry.1 = field.key) →
      (∀ entry ∈ entries, (source entry.1).IsLastUnder entry.1 fields) →
      (∀ entry ∈ entries, (source entry.1).value.IsUnset → entry.2 = .null) →
      (∀ entry ∈ entries, ¬(source entry.1).value.IsUnset →
        FieldValue.Shows (source entry.1).value entry.2) →
      Body.Shows fields (.object entries)

end

namespace Body

/-- A field counts exactly when it shows something. -/
theorem counts_iff {field : Field} : field.Counts ↔ field.shown? ≠ none := by
  -- A field shows nothing when it may be left out and its value is not rendered.
  rw [Field.Counts, ne_eq, shown?_eq_none_iff, FieldValue.render_eq_none_iff, not_and_or,
    Bool.not_eq_true]

/-- Under a key that has a field that counts, there is a last such field. -/
theorem exists_isLastUnder {fields : List Field} {key : String}
    (some : ∃ field ∈ fields, field.key = key ∧ field.Counts) :
    ∃ field, Field.IsLastUnder field key fields := by
  -- The first field is the last one that counts only if none behind it does.
  induction fields with
  | nil => simp at some
  | cons head rest ih =>
    by_cases later : ∃ field ∈ rest, field.key = key ∧ field.Counts
    · obtain ⟨field, before, after, split, last⟩ := ih later
      exact ⟨field, head :: before, after, by rw [split, List.cons_append], last⟩
    · -- None behind the first counts, so it is the first itself.
      obtain ⟨field, member, here, counts⟩ := some
      have first : field = head := by
        rcases List.mem_cons.mp member with same | behind
        · exact same
        · exact absurd ⟨field, behind, here, counts⟩ later
      subst first
      refine ⟨field, [], rest, rfl, here, counts, fun other behind keyed countsToo => ?_⟩
      exact later ⟨other, behind, keyed, countsToo⟩

/-- A body has under a key what the last field there that counts shows. -/
theorem get?_of_isLastUnder {fields : List Field} {field : Field} {key : String}
    (last : field.IsLastUnder key fields) : (Document.ofBody fields).get? key = field.shown? := by
  obtain ⟨before, after, rfl, here, counts, silent⟩ := last
  obtain ⟨shown, shows⟩ := Option.ne_none_iff_exists'.mp (counts_iff.mp counts)
  -- The fields behind it that have its key show nothing.
  have nothing : (under key after).filterMap Field.shown? = [] := by
    rw [List.filterMap_eq_nil_iff]
    intro later member
    obtain ⟨behind, keyed⟩ := List.mem_filter.mp member
    exact not_not.mp (mt counts_iff.mpr (silent later behind (by simpa using keyed)))
  have split : under key (before ++ field :: after) =
      under key before ++ field :: under key after := by
    simp [under, here]
  rw [get?_ofBody_eq, split, List.filterMap_append, List.filterMap_cons, shows, nothing]
  simp

/-- A body has nothing under a key without a field that counts. -/
theorem get?_of_not_counts {fields : List Field} {key : String}
    (silent : ∀ field ∈ fields, field.key = key → ¬field.Counts) :
    (Document.ofBody fields).get? key = none := by
  -- What does not count shows nothing, so nothing is left of the fields under the key.
  have nothing : (under key fields).filterMap Field.shown? = [] := by
    rw [List.filterMap_eq_nil_iff]
    intro field member
    obtain ⟨listed, keyed⟩ := List.mem_filter.mp member
    exact not_not.mp (mt counts_iff.mpr (silent field listed (by simpa using keyed)))
  rw [get?_ofBody_eq, nothing]
  rfl

/-- A body has something under a key exactly when some field there counts. -/
theorem isSome_get?_ofBody_iff {fields : List Field} {key : String} :
    ((Document.ofBody fields).get? key).isSome = true ↔
      ∃ field ∈ fields, field.key = key ∧ field.Counts := by
  -- The last field that counts is shown, and where none counts nothing is.
  constructor
  · intro there
    by_contra none
    push Not at none
    rw [get?_of_not_counts none] at there
    cases there
  · intro some
    obtain ⟨field, last⟩ := exists_isLastUnder some
    rw [get?_of_isLastUnder last]
    exact Option.isSome_iff_ne_none.mpr (counts_iff.mp last.counts)

/-- A field that counts though it is unset shows null. -/
theorem shown?_of_isUnset {field : Field} (counts : field.Counts) (unset : field.value.IsUnset) :
    field.shown? = some .null := by
  -- It counts only because it may not be left out, and then null stands in for its value.
  have required : Slot.optional field = false := counts.resolve_right (not_not.mpr unset)
  have nothing := (FieldValue.render_eq_none_iff field.value).mpr unset
  obtain ⟨key, optional, value⟩ := field
  dsimp only at required nothing
  rw [Field.shown?, FieldValue.shown?, nothing, required]
  rfl

/-- A field that is set shows what its value is rendered to. -/
theorem shown?_of_isSet {field : Field} (set : ¬field.value.IsUnset) :
    field.shown? = field.value.render := by
  -- What is rendered is shown, whether or not the field may be left out.
  have rendered := mt (FieldValue.render_eq_none_iff field.value).mp set
  exact Option.or_of_isSome (Option.isSome_iff_ne_none.mpr rendered)

end Body

/-- An object that is set is rendered as the body of its fields. -/
theorem FieldValue.render_object_eq_some_iff {fields : List Field} {document : Document} :
    (object fields).render = some document ↔
      ¬(object fields).IsUnset ∧ document = Document.ofBody fields := by
  -- The test for an object that shows nothing is the one for being unset.
  rw [← render_eq_none_iff, render]
  split
  · simp
  · simp [Document.ofBody, eq_comm]

/-- Items are rendered in order, without those that are unset. -/
theorem FieldValue.renderItems_eq_iff {items : List FieldValue} {shown : List Document}
    (values : ∀ item ∈ items, ∀ document, item.render = some document ↔ item.Shows document) :
    renderItems items = shown ↔
      List.Forall₂ Shows (items.filter fun item => ¬item.IsUnset) shown := by
  -- The induction is on the items, and one that is unset drops out on both sides.
  induction items generalizing shown with
  | nil => simp [renderItems, eq_comm]
  | cons item rest ih =>
    have ih {shown : List Document} := @ih shown fun other member =>
      values other (List.mem_cons_of_mem item member)
    rw [renderItems, List.filter_cons]
    cases rendered : item.render with
    -- An item that is unset is dropped from the list and from the relation.
    | none =>
      have unset := (render_eq_none_iff item).mp rendered
      simp [unset, ih]
    -- One that is set comes first on both sides.
    | some document =>
      have set : ¬item.IsUnset := fun unset => by
        rw [(render_eq_none_iff item).mpr unset] at rendered
        cases rendered
      simp only [set, not_false_iff, decide_true, if_true, List.forall₂_cons_left_iff]
      constructor
      · rintro rfl
        have here := (values item List.mem_cons_self document).mp rendered
        exact ⟨document, _, here, ih.mp rfl, rfl⟩
      · rintro ⟨first, others, here, later, rfl⟩
        have same := (values item List.mem_cons_self first).mpr here
        rw [rendered] at same
        cases same
        rw [ih.mpr later]

namespace Body

/-- The body of fields is the one document that shows them, if all that is in them is rendered as it
shows. -/
theorem eq_ofBody_iff_of_values {fields : List Field}
    (values : ∀ field ∈ fields, ∀ shown, field.value.render = some shown ↔ field.value.Shows shown)
    (document : Document) : document = Document.ofBody fields ↔ Body.Shows fields document := by
  constructor
  · rintro rfl
    -- Under each key the last field that counts is the source, if there is one.
    have lasts : ∀ key, ∃ source : Field, (∃ field ∈ fields, field.key = key ∧ field.Counts) →
        source.IsLastUnder key fields := by
      intro key
      by_cases some : ∃ field ∈ fields, field.key = key ∧ field.Counts
      · obtain ⟨field, last⟩ := exists_isLastUnder some
        exact ⟨field, fun _ => last⟩
      · exact ⟨default, fun there => absurd there some⟩
    choose source last using lasts
    let body := Dict.ofList (FieldValue.renderFields fields)
    have found : ∀ entry ∈ body.entries, (Document.ofBody fields).get? entry.1 = some entry.2 :=
      fun entry member => (Entries.get?_eq_some_iff body.ordered).mpr member
    have sources : ∀ entry ∈ body.entries, (source entry.1).IsLastUnder entry.1 fields := by
      intro entry member
      exact last _ (isSome_get?_ofBody_iff.mp (by rw [found entry member]; rfl))
    -- What stands under a key is what the last field there shows.
    have shown : ∀ entry ∈ body.entries, (source entry.1).shown? = some entry.2 := by
      intro entry member
      rw [← get?_of_isLastUnder (sources entry member), found entry member]
    refine .object source body.ordered ?_ sources ?_ ?_
    · -- A field that counts has an entry under its key.
      intro field listed counts
      have there := isSome_get?_ofBody_iff.mpr ⟨field, listed, rfl, counts⟩
      obtain ⟨shown, found⟩ := Option.isSome_iff_exists.mp there
      exact ⟨(field.key, shown), (Entries.get?_eq_some_iff body.ordered).mp found, rfl⟩
    · intro entry member unset
      -- A field that counts though unset shows null.
      have null := shown?_of_isUnset (sources entry member).counts unset
      exact Option.some.inj ((shown entry member).symm.trans null)
    · intro entry member set
      have rendered := (shown?_of_isSet set).symm.trans (shown entry member)
      exact (values _ (sources entry member).mem _).mp rendered
  · -- Two objects are the same if they have the same under each key.
    rintro ⟨source, ordered, complete, sources, nulls, shows⟩
    refine congrArg Document.object (Entries.eq_of_get? ordered (Dict.ordered _) fun key => ?_)
    change _ = (Document.ofBody fields).get? key
    cases found : Entries.get? key _ with
    | none =>
      refine (get?_of_not_counts fun field listed here counts => ?_).symm
      obtain ⟨entry, member, same⟩ := complete field listed counts
      -- Nothing under the key would contradict that each field that counts has an entry.
      have there := (Entries.get?_eq_some_iff ordered).mpr member
      rw [same, here, found] at there
      cases there
    | some shown =>
      have member := (Entries.get?_eq_some_iff ordered).mp found
      have last := sources _ member
      rw [get?_of_isLastUnder last]
      by_cases unset : (source key).value.IsUnset
      · rw [shown?_of_isUnset last.counts unset]
        exact congrArg some (nulls _ member unset)
      · rw [shown?_of_isSet unset]
        exact ((values _ last.mem shown).mpr (shows _ member unset)).symm

end Body

/-- A value is rendered exactly as it shows. -/
theorem FieldValue.render_eq_some_iff (value : FieldValue) (document : Document) :
    value.render = some document ↔ value.Shows document := by
  -- An object or a list shows what is inside it, for which the same holds.
  induction value using FieldValue.induction generalizing document with
  | absent => exact iff_of_false nofun nofun
  -- What is given as it is shows itself.
  | scalar given =>
    constructor
    · rintro ⟨⟩
      exact .scalar given
    · rintro ⟨⟩
      rfl
  | object fields ih =>
    rw [render_object_eq_some_iff, Body.eq_ofBody_iff_of_values ih]
    constructor
    · rintro ⟨set, shows⟩
      exact .object set shows
    · rintro (_ | _ | ⟨set, shows⟩)
      exact ⟨set, shows⟩
  | list items ih =>
    constructor
    · rintro ⟨⟩
      exact .list ((renderItems_eq_iff ih).mp rfl)
    · rintro (_ | shown)
      rw [render, (renderItems_eq_iff ih).mpr shown]

namespace Body

/--
A body is the one document that shows its fields, and leaves out no more than what is unset.

It has a key exactly if some field there is set or may not be left out. The last such field counts:
it shows null if it is unset, and else its value, for which the same holds in turn. What is given as
it is, a list, and an object without fields are never unset, whatever they hold.
-/
theorem ofBody_omits_unset (fields : List Field) :
    (∀ document, document = Document.ofBody fields ↔ Body.Shows fields document) ∧
    (∀ key, ((Document.ofBody fields).get? key).isSome = true ↔
      ∃ field ∈ fields, field.key = key ∧ field.Counts) ∧
    (∀ key (field : Field), field.IsLastUnder key fields →
      ∃ shown, (Document.ofBody fields).get? key = some shown ∧
        (field.value.IsUnset → shown = .null) ∧
        (¬field.value.IsUnset → field.value.Shows shown)) ∧
    ∀ value : FieldValue, ((∃ document, value = .scalar document) ∨
      (∃ items, value = .list items) ∨ value = .object []) → ¬value.IsUnset := by
  -- The parts are those proved above, with each value read by the same rule.
  refine ⟨?_, fun key => isSome_get?_ofBody_iff, ?_, ?_⟩
  · exact eq_ofBody_iff_of_values fun field _ => field.value.render_eq_some_iff
  · intro key field last
    rw [get?_of_isLastUnder last]
    by_cases unset : field.value.IsUnset
    · exact ⟨.null, shown?_of_isUnset last.counts unset, fun _ => rfl, fun set => absurd unset set⟩
    · -- What is set is rendered, and that is what the field shows.
      have rendered := mt field.value.render_eq_none_iff.mp unset
      obtain ⟨shown, renders⟩ := Option.ne_none_iff_exists'.mp rendered
      exact ⟨shown, (shown?_of_isSet unset).trans renders, fun there => absurd there unset,
        fun _ => (field.value.render_eq_some_iff shown).mp renders⟩
  · -- None of the three is built by a constructor of what is unset.
    rintro value (⟨document, rfl⟩ | ⟨items, rfl⟩ | rfl) unset
    · cases unset
    · cases unset
    · obtain _ | ⟨some, -⟩ := unset
      exact some rfl

/-- A required field that is unset covers an earlier value, and an optional one does not. -/
example :
    Document.ofBody
      [ .optional "size" (.scalar (.bool false))
      , .optional "size" (.object [Field.optional "gb" .absent])
      , .optional "note" (.scalar (.string "")), .required "note" .absent ] =
    .object [("note", .null), ("size", .bool false)] := rfl

end Body

end Provision
