import Mathlib.Data.List.Induction
import Mathlib.Data.List.Pairwise
import Provision.Proofs.Path.Dotted
import Provision.Proofs.Value

/-! A body that values are placed in shows each of them at its own position, if no position lies on
the way to another. -/

namespace Provision

namespace FieldValue

/-- What a field shows of its value; one that is required shows null in the end. -/
def shown? (optional : Bool) (value : FieldValue) : Option Document :=
  value.render.or (if optional then none else some .null)

end FieldValue

/-- What a field shows under its key, if anything. -/
def Field.shown? : Field → Option Document
  | ⟨_, optional, value⟩ => value.shown? optional

namespace FieldValue

/-- Fields are rendered one by one. -/
theorem renderFields_eq (fields : List Field) :
    renderFields fields = fields.filterMap fun field => field.shown?.map (field.key, ·) := by
  -- A field that shows nothing is passed over, and one that is required never is.
  induction fields with
  | nil => rfl
  | cons head rest ih =>
    obtain ⟨key, optional, value⟩ := head
    rw [renderFields, List.filterMap_cons, ih]
    cases shown : value.render with
    | some d => simp [Field.shown?, shown?, shown]
    | none => cases optional <;> simp [Field.shown?, shown?, shown]

end FieldValue

namespace Body

/-- The fields under a key. -/
def under (key : String) (fields : List Field) : List Field := fields.filter (·.key = key)

/-- Of the fields under a key that show something, a body has what the last one shows. -/
theorem get?_ofBody_eq (fields : List Field) (key : String) :
    (Document.ofBody fields).get? key = ((under key fields).filterMap Field.shown?).getLast? := by
  -- What other fields show stands under other keys.
  have shown : (FieldValue.renderFields fields).filter (·.1 = key) =
      (under key fields).filterMap fun field => field.shown?.map (field.key, ·) := by
    rw [FieldValue.renderFields_eq, under, List.filter_filterMap, List.filterMap_filter]
    congr 1
    funext field
    cases field.shown? with
    | none => simp
    | some d => by_cases same : field.key = key <;> simp [same, Option.filter]
  change (Dict.ofList (FieldValue.renderFields fields)).get? key = _
  rw [Dict.get?_ofList, shown, ← List.getLast?_map, List.map_filterMap]
  simp [Function.comp_def]

/-- Under a key that has one field or none, a body has what that field shows. -/
theorem get?_ofBody {key : String} {fields : List Field} {field : Option Field}
    (only : under key fields = field.toList) :
    (Document.ofBody fields).get? key = field.bind Field.shown? := by
  -- Of one field or none, the last that shows is that field or nothing.
  rw [get?_ofBody_eq, only]
  cases field with
  | none => rfl
  | some field => cases shows : field.shown? <;> simp [shows]

/-- A change inside the object under a key leaves the fields under other keys. -/
theorem under_inside_of_ne {key other : String} (different : key ≠ other)
    (change : List Field → List Field) (fields : List Field) :
    under other (inside key change fields) = under other fields := by
  -- Whatever is changed or added has the key itself.
  fun_induction inside key change fields with
  | case1 => simp [under, Field.optional, different]
  | case2 optional children rest => simp [under, different]
  | case3 k optional children rest distinct ih =>
    unfold under at ih ⊢
    rw [List.filter_cons, List.filter_cons, ih]
  | case4 field rest plain ih =>
    unfold under at ih ⊢
    rw [List.filter_cons, List.filter_cons, ih]

/-- An object under a key; without fields there is none. -/
def branch (key : String) (children : List Field) : List Field :=
  if children = [] then [] else [Field.optional key (.object children)]

/-- A change inside an object is made to its fields, and an object that is not there is added. -/
theorem under_inside {key : String} {fields children : List Field}
    (there : under key fields = branch key children) (change : List Field → List Field) :
    under key (inside key change fields) = [Field.optional key (.object (change children))] := by
  -- The first object under the key is the only field there, so all other fields are passed.
  unfold branch at there
  fun_induction inside key change fields with
  -- Without any field there the object is added to nothing.
  | case1 =>
    by_cases empty : children = []
    · simp [under, Field.optional, empty]
    · rw [if_neg empty] at there
      cases there
  -- The first object under the key is the one that the branch stands for.
  | case2 optional inner rest =>
    by_cases empty : children = []
    · simp [under, empty] at there
    · simp only [under, List.filter_cons, decide_true, if_true, if_neg empty, List.cons.injEq,
        Field.optional, Slot.mk.injEq, FieldValue.object.injEq, true_and] at there
      obtain ⟨⟨rfl, rfl⟩, alone⟩ := there
      simp [under, Field.optional, alone]
  | case3 k optional inner rest distinct ih =>
    simp only [under, List.filter_cons, distinct, decide_false, Bool.false_eq_true, if_false]
      at there ih ⊢
    exact ih there
  -- A field under the key that is no object would be there besides the branch.
  | case4 field rest plain ih =>
    by_cases here : field.key = key
    · by_cases empty : children = []
      · simp [under, here, empty] at there
      · simp only [under, List.filter_cons, here, decide_true, if_true, if_neg empty,
          List.cons.injEq] at there
        exact (plain _ _ _ there.1).elim
    · simp only [under, List.filter_cons, here, decide_false, Bool.false_eq_true, if_false]
        at there ih ⊢
      exact ih there

/-- Where something was placed there is a field. -/
theorem place_ne_nil {path : List String} (further : path ≠ []) (value : FieldValue)
    (optional : Bool) (fields : List Field) : place value optional path fields ≠ [] := by
  -- A last key appends a field, and a key before it leaves at least the object it leads into.
  cases path with
  | nil => exact absurd rfl further
  | cons key rest =>
    cases rest with
    | nil => simp [place]
    | cons next rest =>
      rw [place]
      · unfold inside
        split
        · simp
        · split <;> simp
        · simp
      · simp

/-- A value and where in a body it is to stand. -/
structure Placement where
  path : List String
  optional : Bool
  value : FieldValue

/-- The fields of a body with values placed in it, one after the other. -/
def assemble (placements : List Placement) : List Field :=
  placements.foldl (fun fields p => place p.value p.optional p.path fields) []

/-- The fields that are placed right under a key. -/
def leaves (key : String) (placements : List Placement) : List Field :=
  (placements.filter (·.path = [key])).map fun p => ⟨key, p.optional, p.value⟩

/-- What is left of a placement inside the object under a key. -/
def Placement.inside? (key : String) : Placement → Option Placement
  | ⟨first :: next :: rest, optional, value⟩ =>
    if first = key then some ⟨next :: rest, optional, value⟩ else none
  | _ => none

/-- The placements inside the object under a key. -/
def within (key : String) (placements : List Placement) : List Placement :=
  placements.filterMap (Placement.inside? key)

/-- Neither of two placements lies on the way to the other. -/
def Placement.Apart (p q : Placement) : Prop := ¬p.path <+: q.path ∧ ¬q.path <+: p.path

/-- What is placed last is placed among all the rest. -/
theorem assemble_append (placements : List Placement) (p : Placement) :
    assemble (placements ++ [p]) = place p.value p.optional p.path (assemble placements) := by
  -- Placements are placed from the first to the last.
  rw [assemble, List.foldl_append]
  rfl

/-- A value that is placed in the end is right under the last key of its position. -/
theorem leaves_append (key : String) (placements : List Placement) (p : Placement) :
    leaves key (placements ++ [p]) =
      leaves key placements ++ if p.path = [key] then [⟨key, p.optional, p.value⟩] else [] := by
  -- The last placement is kept by the filter or not.
  rw [leaves, List.filter_append, List.map_append]
  by_cases here : p.path = [key] <;> simp [leaves, here]

/-- A value that is placed in the end is inside the object under the first key of its position. -/
theorem within_append (key : String) (placements : List Placement) (p : Placement) :
    within key (placements ++ [p]) = within key placements ++ (p.inside? key).toList := by
  -- The last placement is inside the object or not.
  rw [within, List.filterMap_append]
  cases inner : p.inside? key <;> simp [within, inner]

/-- Where nothing is placed at a key, there is no field right under it. -/
theorem leaves_eq_nil {key : String} {placements : List Placement}
    (free : ∀ p ∈ placements, p.path ≠ [key]) : leaves key placements = [] := by
  -- The filter keeps none of them.
  rw [leaves, List.filter_eq_nil_iff.mpr fun p member => by simpa using free p member]
  rfl

/-- What is not placed behind a key is not inside an object under it. -/
theorem Placement.inside?_eq_none {key : String} {p : Placement}
    (elsewhere : ¬[key] <+: p.path) : p.inside? key = none := by
  -- Only a path of two keys or more leads into an object.
  obtain ⟨path, optional, value⟩ := p
  match path with
  | [] => rfl
  | [_] => rfl
  | first :: next :: rest =>
    refine if_neg fun here => elsewhere ?_
    rw [here]
    exact ⟨next :: rest, rfl⟩

/-- Where nothing is placed behind a key, there is nothing inside an object under it. -/
theorem within_eq_nil {key : String} {placements : List Placement}
    (free : ∀ p ∈ placements, ¬[key] <+: p.path) : within key placements = [] :=
  List.filterMap_eq_nil_iff.mpr fun p member => Placement.inside?_eq_none (free p member)

/-- Under a key is the field that is placed there, or an object with all that is placed inside. -/
theorem under_assemble {placements : List Placement} (apart : placements.Pairwise Placement.Apart)
    (proper : ∀ p ∈ placements, p.path ≠ []) (key : String) :
    under key (assemble placements) =
      leaves key placements ++ branch key (assemble (within key placements)) := by
  -- The last placement appends its field, or goes into the object of those with the same key.
  induction placements using List.reverseRecOn with
  -- Before anything is placed there are no fields.
  | nil => rfl
  | append_singleton earlier last ih =>
    obtain ⟨apartEarlier, -, cross⟩ := List.pairwise_append.mp apart
    have apartLast : ∀ p ∈ earlier, p.Apart last := fun p member => cross p member last (by simp)
    have ih := ih apartEarlier fun p member => proper p (List.mem_append_left _ member)
    have further : last.path ≠ [] := proper last (by simp)
    obtain ⟨path, optional, value⟩ := last
    rw [assemble_append, leaves_append, within_append]
    match path with
    | [] => exact absurd rfl further
    | [first] =>
      have inner : Placement.inside? key ⟨[first], optional, value⟩ = none := rfl
      rw [place, under, List.filter_append, inner, Option.toList_none, List.append_nil]
      change under key (assemble earlier) ++ _ = _
      rw [ih]
      by_cases here : first = key
      · -- Nothing that is placed earlier is at the key or behind it.
        subst here
        have free : ∀ p ∈ earlier, ¬[first] <+: p.path := fun p member => (apartLast p member).2
        have plain : ∀ p ∈ earlier, p.path ≠ [first] := by
          intro p member located
          exact free p member (located ▸ List.prefix_refl _)
        simp [leaves_eq_nil plain, within_eq_nil free, assemble, branch]
      · simp [here]
    | first :: next :: rest =>
      -- A longer position leads into the object under its first key.
      have opened : place value optional (first :: next :: rest) (assemble earlier) =
          inside first (place value optional (next :: rest)) (assemble earlier) := rfl
      rw [opened]
      by_cases here : first = key
      · subst here
        -- What is placed right under the key would lie on the way to this one.
        have free : ∀ p ∈ earlier, p.path ≠ [first] := by
          intro p member located
          exact (apartLast p member).1 (located ▸ ⟨next :: rest, rfl⟩)
        rw [leaves_eq_nil free, List.nil_append] at ih ⊢
        have inner : Placement.inside? first ⟨first :: next :: rest, optional, value⟩ =
            some ⟨next :: rest, optional, value⟩ := if_pos rfl
        have filled := place_ne_nil (List.cons_ne_nil next rest) value optional
          (assemble (within first earlier))
        rw [under_inside ih, inner, Option.toList_some, assemble_append, branch, if_neg filled]
        simp
      · have inner : Placement.inside? key ⟨first :: next :: rest, optional, value⟩ = none :=
          if_neg here
        rw [under_inside_of_ne here, ih, inner]
        simp [here]

/-- Placements that are apart are so in either order. -/
theorem Placement.Apart.symm {p q : Placement} (apart : p.Apart q) : q.Apart p :=
  ⟨apart.2, apart.1⟩

/-- Each of the placements is apart from all others. -/
theorem apart_of_split {before after : List Placement} {p : Placement}
    (apart : (before ++ p :: after).Pairwise Placement.Apart) :
    ∀ q ∈ before ++ after, p.Apart q :=
  (List.pairwise_cons.mp ((List.perm_middle.pairwise_iff Placement.Apart.symm).mp apart)).1

/-- What is placed right under a key is all that is placed under the key. -/
theorem leaves_of_mem {placements : List Placement}
    (apart : placements.Pairwise Placement.Apart) {key : String} {optional : Bool}
    {value : FieldValue} (member : ⟨[key], optional, value⟩ ∈ placements) :
    leaves key placements = [⟨key, optional, value⟩] ∧ within key placements = [] := by
  -- A second placement under the key would lie behind the first.
  obtain ⟨before, after, rfl⟩ := List.append_of_mem member
  have others := apart_of_split apart
  have free : ∀ q ∈ before ++ after, ¬[key] <+: q.path := fun q listed => (others q listed).1
  have plain : ∀ q ∈ before ++ after, q.path ≠ [key] := by
    intro q listed located
    exact free q listed (located ▸ List.prefix_refl _)
  -- Neither before nor after the placement is another one at the key or behind it.
  constructor
  · have first := leaves_eq_nil fun q listed => plain q (List.mem_append_left _ listed)
    have last := leaves_eq_nil fun q listed => plain q (List.mem_append_right _ listed)
    rw [leaves] at first last ⊢
    rw [List.filter_append, List.map_append, first, List.filter_cons]
    simp [last]
  · have first := within_eq_nil fun q listed => free q (List.mem_append_left _ listed)
    have last := within_eq_nil fun q listed => free q (List.mem_append_right _ listed)
    have leaf : Placement.inside? key ⟨[key], optional, value⟩ = none := rfl
    rw [within] at first last ⊢
    rw [List.filterMap_append, first, List.filterMap_cons, leaf, last]
    rfl

/-- What is placed further behind a key leaves nothing to be placed right under it. -/
theorem leaves_of_further {placements : List Placement}
    (apart : placements.Pairwise Placement.Apart) {key : String} {rest : List String}
    {optional : Bool} {value : FieldValue} (further : rest ≠ [])
    (member : ⟨key :: rest, optional, value⟩ ∈ placements) : leaves key placements = [] := by
  -- A value right under the key would lie on the way to the one placed further behind it.
  obtain ⟨before, after, rfl⟩ := List.append_of_mem member
  refine leaves_eq_nil fun q listed located => ?_
  -- It would be before the given one or after it, or that one itself.
  rcases List.mem_append.mp listed with earlier | others
  · exact (apart_of_split apart q (List.mem_append_left _ earlier)).2 (located ▸ ⟨rest, rfl⟩)
  · rcases List.mem_cons.mp others with same | later
    · rw [same] at located
      exact further (List.cons.inj located).2
    · exact (apart_of_split apart q (List.mem_append_right _ later)).2 (located ▸ ⟨rest, rfl⟩)

/-- A placement inside an object under a key is what is left of one with the same value that goes on
behind the key. -/
theorem Placement.eq_of_inside? {key : String} {p inner : Placement}
    (inside : p.inside? key = some inner) :
    p = { inner with path := key :: inner.path } ∧ inner.path ≠ [] := by
  -- Only a path of two keys or more leads into an object, and its first key is that one.
  obtain ⟨path, optional, value⟩ := p
  match path with
  | [] => cases inside
  | [_] => cases inside
  | first :: next :: rest =>
    obtain ⟨rfl, same⟩ := Option.ite_none_right_eq_some.mp inside
    cases same
    exact ⟨rfl, List.cons_ne_nil next rest⟩

/-- Placements inside an object are apart if all placements are. -/
theorem within_apart {placements : List Placement}
    (apart : placements.Pairwise Placement.Apart) (key : String) :
    (within key placements).Pairwise Placement.Apart := by
  -- Positions that share their first key are as far apart as what is left of them.
  refine apart.filterMap _ fun p q apart inner insideP other insideQ => ?_
  rw [(Placement.eq_of_inside? insideP).1, (Placement.eq_of_inside? insideQ).1] at apart
  simpa only [Placement.Apart, List.prefix_cons_inj] using apart

/-- Placements inside an object have positions in it. -/
theorem within_proper {key : String} {placements : List Placement} :
    ∀ p ∈ within key placements, p.path ≠ [] := by
  -- What is left of a placement inside an object still has a key.
  intro p member
  obtain ⟨_, -, inside⟩ := List.mem_filterMap.mp member
  exact (Placement.eq_of_inside? inside).2

/-- A field that is a branch is there exactly when something inside it shows. -/
theorem get?_branch {key : String} {fields children : List Field}
    (there : under key fields = branch key children) :
    (Document.ofBody fields).get? key =
      if FieldValue.renderFields children = [] then none else some (Document.ofBody children) := by
  -- Without anything inside there is no branch, and with something there is just one.
  by_cases empty : children = []
  · have none : under key fields = (none : Option Field).toList := by
      rw [there, branch, if_pos empty]
      rfl
    rw [get?_ofBody none, empty]
    rfl
  · have one : under key fields = (some (Field.optional key (.object children))).toList := by
      rw [there, branch, if_neg empty]
      rfl
    have shows : (Field.optional key (.object children)).shown? =
        (FieldValue.object children).render := Option.or_none
    rw [get?_ofBody one, Option.bind_some, shows, FieldValue.render]
    simp [empty, Document.ofBody]

/-- Keys into the object of a branch lead through its fields. -/
theorem at?_branch {key : String} {keys : List String} {fields children : List Field}
    (there : under key fields = branch key children) (further : keys ≠ []) :
    (Document.ofBody fields).at? (key :: keys) = (Document.ofBody children).at? keys := by
  -- The first key leads into the branch, if anything shows there.
  rw [Document.at?, get?_branch there]
  by_cases empty : FieldValue.renderFields children = []
  · -- Nothing is shown inside, and so nothing is found there either.
    rw [if_pos empty, Document.ofBody, empty]
    cases keys with
    | nil => exact absurd rfl further
    | cons next rest => rfl
  · rw [if_neg empty, Option.bind_some]

/--
A body shows each value at the position where it was placed.

This takes that no position lies on the way to another. Then a value is alone under the last key of
its position, and the objects on the way hold only what is placed inside them.
-/
theorem at?_assemble {placements : List Placement} (apart : placements.Pairwise Placement.Apart)
    (proper : ∀ p ∈ placements, p.path ≠ []) {path : List String} {optional : Bool}
    {value : FieldValue} (member : ⟨path, optional, value⟩ ∈ placements) :
    (Document.ofBody (assemble placements)).at? path = value.shown? optional := by
  -- Each key but the last leads into an object, where the rest of the position is looked up.
  induction path generalizing placements with
  | nil => exact absurd rfl (proper _ member)
  | cons key rest ih =>
    have there := under_assemble apart proper key
    cases rest with
    | nil =>
      -- At the last key stands the value alone.
      obtain ⟨leaf, empty⟩ := leaves_of_mem apart member
      have one : under key (assemble placements) =
          (some ⟨key, optional, value⟩ : Option Field).toList := by
        rw [there, leaf, empty]
        rfl
      rw [Document.at?, get?_ofBody one]
      exact Option.bind_fun_some _
    | cons next more =>
      -- Any other key leads into a branch that holds the rest.
      have further : next :: more ≠ [] := List.cons_ne_nil next more
      rw [leaves_of_further apart further member, List.nil_append] at there
      have inner : (⟨next :: more, optional, value⟩ : Placement) ∈ within key placements :=
        List.mem_filterMap.mpr ⟨_, member, if_pos rfl⟩
      rw [at?_branch there further]
      exact ih (within_apart apart key) within_proper inner

/-- The placement of an attribute that is sent for a purpose. -/
def placement? (attributes : Attributes) (purpose : Purpose) (a : Attribute) : Option Placement :=
  a.requestKey.bind fun key =>
    if takes purpose a.name then
      some ⟨position key, !a.required, FieldValue.ofAttribute (attributes.get? a.name)⟩
    else none

/-- The fields of attributes are placed at the positions of their request keys. -/
theorem fields_eq (s : Schema) (attributes : Attributes) (purpose : Purpose) :
    fields s attributes purpose = assemble (s.list.filterMap (placement? attributes purpose)) := by
  -- An attribute that is not sent leaves the fields as they are.
  rw [fields, assemble, List.foldl_filterMap]
  congr 1
  funext placed a
  cases keyed : a.requestKey with
  | none => simp only [placement?, keyed, Option.bind_none]
  | some key =>
    simp only [placement?, keyed, Option.bind_some]
    split <;> rfl

/-- The position of a key has at least one part. -/
theorem position_ne_nil (key : String) : position key ≠ [] := by
  -- A text has at least one part, even if it is empty.
  obtain ⟨part, parts, cut, -⟩ := Text.split_joined '.' key.toList
  rw [position, cut]
  exact List.cons_ne_nil _ _

end Body

/-- No attribute is sent under the key of another, or under one that the other's key begins with. -/
def Schema.KeysApart (s : Schema) : Prop :=
  s.list.Pairwise fun a b => ∀ key ∈ a.requestKey, ∀ other ∈ b.requestKey,
    ¬Body.position key <+: Body.position other ∧ ¬Body.position other <+: Body.position key

instance (s : Schema) : Decidable s.KeysApart := inferInstanceAs (Decidable (s.list.Pairwise _))

/-- The keys of two attributes that are not the same are apart, in whichever order they are
listed. -/
theorem Schema.KeysApart.of_ne {s : Schema} (apart : s.KeysApart) {a b : Attribute}
    (listed : a ∈ s.list) (listedToo : b ∈ s.list) (different : a ≠ b) {key other : String}
    (keyed : a.requestKey = some key) (otherKeyed : b.requestKey = some other) :
    ¬Body.position key <+: Body.position other ∧ ¬Body.position other <+: Body.position key := by
  -- To be apart is symmetric, so the order in which they are listed does not matter.
  have symmetric : Std.Symm fun a b : Attribute => ∀ key ∈ a.requestKey, ∀ other ∈ b.requestKey,
      ¬Body.position key <+: Body.position other ∧ ¬Body.position other <+: Body.position key :=
    ⟨fun _ _ apart key keyed other otherKeyed => (apart other otherKeyed key keyed).symm⟩
  have pairs : s.list.Pairwise fun a b : Attribute => ∀ key ∈ a.requestKey, ∀ other ∈ b.requestKey,
      ¬Body.position key <+: Body.position other ∧ ¬Body.position other <+: Body.position key :=
    apart
  exact pairs.forall listed listedToo different key keyed other otherKeyed

namespace Body

/-- The placement of an attribute is at the position of its request key. -/
theorem path_of_placement? {attributes : Attributes} {purpose : Purpose} {a : Attribute}
    {p : Placement} (placed : placement? attributes purpose a = some p) :
    ∃ key, a.requestKey = some key ∧ p.path = position key := by
  -- An attribute that is placed has a request key and is sent.
  obtain ⟨key, keyed, sent⟩ := Option.bind_eq_some_iff.mp placed
  obtain ⟨-, same⟩ := Option.ite_none_right_eq_some.mp sent
  cases same
  exact ⟨key, keyed, rfl⟩

/-- What attributes place is apart, as their request keys keep their positions apart. -/
theorem placements_apart {s : Schema} (apart : s.KeysApart) (attributes : Attributes)
    (purpose : Purpose) :
    (s.list.filterMap (placement? attributes purpose)).Pairwise Placement.Apart := by
  -- Placements keep the positions of the keys they come from.
  refine apart.filterMap _ fun first second distinct p placedFirst q placedSecond => ?_
  obtain ⟨key, keyed, pathFirst⟩ := path_of_placement? placedFirst
  obtain ⟨other, otherKeyed, pathSecond⟩ := path_of_placement? placedSecond
  rw [Placement.Apart, pathFirst, pathSecond]
  exact distinct key keyed other otherKeyed

/-- What attributes place has a position. -/
theorem placements_proper {s : Schema} {attributes : Attributes} {purpose : Purpose} :
    ∀ p ∈ s.list.filterMap (placement? attributes purpose), p.path ≠ [] := by
  -- Each position is that of a key.
  intro p member
  obtain ⟨other, -, placed⟩ := List.mem_filterMap.mp member
  obtain ⟨key, -, path⟩ := path_of_placement? placed
  rw [path]
  exact position_ne_nil key

/-- A body has what it was built for at the position of every attribute that is sent. -/
theorem at?_ofSchema {s : Schema} (apart : s.KeysApart) (purpose : Purpose) (resource : Resource)
    {a : Attribute} (listed : a ∈ s.list) {key : String} (keyed : a.requestKey = some key)
    (sent : takes purpose a.name = true) :
    (ofSchema s purpose resource).at? (position key) =
      (FieldValue.ofAttribute (resource.get? a.name)).shown? !a.required := by
  -- The attribute has a placement among all others, and it is found where it was placed.
  have placed : placement? resource.attributes purpose a =
      some ⟨position key, !a.required, FieldValue.ofAttribute (resource.get? a.name)⟩ := by
    rw [placement?, keyed, Option.bind_some, if_pos sent]
    rfl
  rw [ofSchema, fields_eq]
  exact at?_assemble (placements_apart apart resource.attributes purpose) placements_proper
    (List.mem_filterMap.mpr ⟨a, listed, placed⟩)

/-- A body has nothing under a key with which no request key begins. -/
theorem get?_ofSchema_eq_none {s : Schema} (apart : s.KeysApart) (purpose : Purpose)
    (resource : Resource) {key : String}
    (free : ∀ a ∈ s.list, ∀ other ∈ a.requestKey, (position other).head? ≠ some key) :
    (ofSchema s purpose resource).get? key = none := by
  let placements := s.list.filterMap (placement? resource.attributes purpose)
  -- Nothing is placed at the key or behind it.
  have elsewhere : ∀ p ∈ placements, p.path.head? ≠ some key := by
    intro p placed
    obtain ⟨a, listed, sent⟩ := List.mem_filterMap.mp placed
    obtain ⟨other, keyed, path⟩ := path_of_placement? sent
    rw [path]
    exact free a listed other keyed
  -- So the key has neither a field nor an object under it.
  have empty : under key (assemble placements) = (none : Option Field).toList := by
    rw [under_assemble (placements_apart apart resource.attributes purpose) placements_proper,
      leaves_eq_nil, within_eq_nil]
    · rfl
    · rintro p placed ⟨rest, path⟩
      exact elsewhere p placed (by rw [← path]; rfl)
    · intro p placed path
      exact elsewhere p placed (by rw [path]; rfl)
  rw [ofSchema, fields_eq, get?_ofBody empty]
  rfl

end Body

end Provision
