import Mathlib.Data.List.Sort
import Provision.Engine.Update
import Provision.Proofs.Dict

/-! An update is planned before anything is sent: it is rejected for one of four reasons, or
accepted with the attributes that change. -/

namespace Provision

/-- A list names exactly what has a property, each name once and in order. -/
structure Lists (names : List String) (holds : String → Prop) : Prop where
  ordered : names.Pairwise (· < ·)
  mem_iff : ∀ name, name ∈ names ↔ holds name

namespace Lists

/-- The names in a list that pass a test are listed by what is left of it. -/
theorem filter {names : List String} {holds also : String → Prop} {test : String → Bool}
    (lists : Lists names holds) (tests : ∀ name, test name = true ↔ also name) :
    Lists (names.filter test) fun name => holds name ∧ also name where
  ordered := lists.ordered.filter _
  mem_iff := fun name => by rw [List.mem_filter, lists.mem_iff, tests]

/-- What has a property is listed by one list only. -/
theorem unique {names others : List String} {holds : String → Prop} (lists : Lists names holds)
    (listsToo : Lists others holds) : names = others := by
  -- Two strictly ordered lists with the same members are equal.
  have antisymm : Std.Antisymm (α := String) (· < ·) :=
    ⟨fun _ _ less more => absurd (String.lt_trans less more) (String.lt_irrefl _)⟩
  have irrefl : Std.Irrefl (α := String) (· < ·) := ⟨fun name => String.lt_irrefl name⟩
  exact lists.ordered.eq_of_mem_iff listsToo.ordered fun name =>
    (lists.mem_iff name).trans (listsToo.mem_iff name).symm

/-- Nothing is listed exactly when nothing has the property. -/
theorem eq_nil_iff {names : List String} {holds : String → Prop} (lists : Lists names holds) :
    names = [] ↔ ∀ name, ¬holds name := by
  -- The members of the list are what has the property.
  rw [List.eq_nil_iff_forall_not_mem]
  exact forall_congr' fun name => not_congr (lists.mem_iff name)

end Lists

/-- A resource asks for a change of an attribute: it sets the attribute, which is neither internal
nor computed, and the state has it not at all or with an unequal value. -/
structure Differs (s : Schema) (wanted : Resource) (current : State) (name : String) : Prop where
  unequal : ∃ value, wanted.get? name = some value ∧
    ∀ had, current.attributes.get? name = some had → value.agrees had = false
  plain : name.toList.head? ≠ some '_'
  settable : ∀ a, s.find? name = some a → a.computed = false

/-- An attribute can only change with a new object. -/
def IsFixed (s : Schema) (name : String) : Prop := ∃ a, s.find? name = some a ∧ a.forceNew = true

namespace Change

/-- A value agrees with none exactly when every value that is there is unequal. -/
theorem not_agreesWith_iff {value : Value} {other : Option Value} :
    value.agreesWith other = false ↔ ∀ had, other = some had → value.agrees had = false := by
  -- With nothing there, nothing can be unequal.
  cases other <;> simp [Value.agreesWith]

/-- The changed attributes are listed. -/
theorem changed_lists (s : Schema) (wanted : Resource) (current : State) :
    Lists (changed s wanted.attributes current.attributes) (Differs s wanted current) where
  ordered := Dict.keys_ordered _
  mem_iff := fun name => by
    -- What is left of the keys by the filter are those whose value differs.
    rw [changed, Dict.mem_keys_filter_iff]
    simp only [differs, Bool.and_eq_true, Bool.not_eq_true', bne_iff_ne, Option.any_eq_false,
      not_agreesWith_iff]
    constructor
    · rintro ⟨value, set, ⟨plain, settable⟩, unequal⟩
      exact ⟨⟨value, set, unequal⟩, plain, by simpa using settable⟩
    · rintro ⟨⟨value, set, unequal⟩, plain, settable⟩
      exact ⟨value, set, ⟨plain, by simpa using settable⟩, unequal⟩

/-- The changed attributes that are fixed are listed. -/
theorem fixed_lists (s : Schema) (wanted : Resource) (current : State) :
    Lists ((changed s wanted.attributes current.attributes).filter fun name =>
      (s.find? name).any (·.forceNew))
      fun name => Differs s wanted current name ∧ IsFixed s name :=
  (changed_lists s wanted current).filter fun name => by
    rw [Option.any_eq_true]
    rfl

variable {s : Schema} {wanted : Resource} {current : State} {names : List String}

/-- An object that is not there has to be created. -/
theorem between_of_absent (absent : current.present = false) :
    between s wanted current = .create := by
  -- Whether the object is there comes before any comparison.
  simp [between, absent]

/-- An object is replaced for all the changed attributes that are fixed. -/
theorem between_of_fixed (present : current.present = true)
    (fixed : Lists names fun name => Differs s wanted current name ∧ IsFixed s name)
    (nonempty : names ≠ []) : between s wanted current = .replace names := by
  -- There is only one list of them, so it is the one that was computed.
  have same := (fixed_lists s wanted current).unique fixed
  simp only [between, present, Bool.not_true, Bool.false_eq_true, if_false, same,
    List.isEmpty_eq_false_iff.mpr nonempty, Bool.not_false, if_true]

/-- Without a fixed attribute among them, the changed attributes change in place. -/
theorem between_of_movable (present : current.present = true)
    (movable : ∀ name, Differs s wanted current name → ¬IsFixed s name)
    (listed : Lists names (Differs s wanted current)) :
    between s wanted current = if names.isEmpty then .nothing else .update names := by
  -- The list of fixed attributes is empty then.
  have same := (changed_lists s wanted current).unique listed
  have empty := (fixed_lists s wanted current).eq_nil_iff.mpr fun name both =>
    movable name both.1 both.2
  rw [same] at empty
  simp only [between, present, Bool.not_true, Bool.false_eq_true, if_false, same, empty,
    List.isEmpty_nil]

/-- Where an attribute differs and none that does is fixed, those that differ change in place. -/
theorem between_of_differs (present : current.present = true)
    (movable : ∀ name, Differs s wanted current name → ¬IsFixed s name) {name : String}
    (differs : Differs s wanted current name) :
    between s wanted current = .update (changed s wanted.attributes current.attributes) := by
  -- An attribute that differs is among those that change.
  have listed := changed_lists s wanted current
  have member := (listed.mem_iff name).mpr differs
  have nonempty := List.isEmpty_eq_false_iff_exists_mem.mpr ⟨name, member⟩
  rw [between_of_movable present movable listed, nonempty, if_neg Bool.false_ne_true]

end Change

namespace Engine

variable {σ : Type} {e : Engine σ} {identifier : String} {current : State} {wanted : Resource}

/-- An attribute can change in place, as the tags or in an update group. -/
inductive IsCovered (e : Engine σ) (name : String) : Prop where
  | tags {tagging : Tagging} : e.blueprint.tagging = some tagging → tagging.name = name →
      IsCovered e name
  | group {group : UpdateGroup} : group ∈ e.blueprint.updateGroups → name ∈ group.attributes →
      IsCovered e name

/-- The attributes that are found updatable are those that can change in place. -/
theorem isUpdatable_iff {name : String} : e.isUpdatable name = true ↔ e.IsCovered name := by
  -- Both sides ask for the tags first and then for a group, so each part has its like.
  simp only [isUpdatable, Bool.or_eq_true, Option.any_eq_true, List.any_eq_true,
    List.contains_iff_mem, decide_eq_true_eq]
  constructor
  · rintro (⟨tagging, tagged, named⟩ | ⟨group, listed, member⟩)
    · exact .tags tagged named
    · exact .group listed member
  · rintro (⟨tagged, named⟩ | ⟨listed, member⟩)
    · exact .inl ⟨_, tagged, named⟩
    · exact .inr ⟨_, listed, member⟩

/-- The changed attributes that cannot change in place are listed. -/
theorem uncovered_lists (e : Engine σ) (wanted : Resource) (current : State) :
    Lists ((Change.changed e.kind.schema wanted.attributes current.attributes).filter fun name =>
      !e.isUpdatable name)
      fun name => Differs e.kind.schema wanted current name ∧ ¬e.IsCovered name :=
  (Change.changed_lists e.kind.schema wanted current).filter fun name => by
    rw [← isUpdatable_iff, Bool.not_eq_true', Bool.not_eq_true]

/-- What is said about a resource whose attributes have faults. -/
def complaint (e : Engine σ) (resource : Resource) : String :=
  resource.id.text ++ ": " ++
    String.intercalate "; " ((e.kind.schema.faults resource.attributes).map TypeFault.message)

/-- A resource passes validation exactly when its attributes have no faults. -/
theorem validate_eq (e : Engine σ) (resource : Resource) :
    e.validate resource = if e.kind.schema.faults resource.attributes = [] then .ok ()
      else .error (.invalidConfiguration (e.complaint resource)) := by
  -- The text of the failure is put together in the same way.
  unfold validate complaint
  split
  · rename_i sound
    rw [if_pos sound]
  · rename_i faulty
    rw [if_neg faulty]
    rfl

/-- Why an update is rejected; of several reasons the first counts. -/
inductive Rejects (e : Engine σ) (identifier : String) (current : State) (wanted : Resource) :
    Failure → Prop where
  | gone : current.present = false →
      Rejects e identifier current wanted (.resourceGone (e.descriptor identifier).text)
  | fixed {names : List String} : current.present = true →
      Lists names (fun name => Differs e.kind.schema wanted current name ∧
        IsFixed e.kind.schema name) → names ≠ [] →
      Rejects e identifier current wanted (.requiresReplacement names)
  | faulty : current.present = true →
      (∀ name, Differs e.kind.schema wanted current name → ¬IsFixed e.kind.schema name) →
      (∃ name, Differs e.kind.schema wanted current name) →
      e.kind.schema.faults wanted.attributes ≠ [] →
      Rejects e identifier current wanted (.invalidConfiguration (e.complaint wanted))
  | uncovered {names : List String} : current.present = true →
      (∀ name, Differs e.kind.schema wanted current name → ¬IsFixed e.kind.schema name) →
      e.kind.schema.faults wanted.attributes = [] →
      Lists names (fun name => Differs e.kind.schema wanted current name ∧ ¬e.IsCovered name) →
      names ≠ [] → Rejects e identifier current wanted (.notUpdatable names)

/-- When an update is accepted, and which attributes change by it. -/
structure Accepts (e : Engine σ) (current : State) (wanted : Resource) (changed : List String) :
    Prop where
  present : current.present = true
  listed : Lists changed (Differs e.kind.schema wanted current)
  movable : ∀ name, Differs e.kind.schema wanted current name → ¬IsFixed e.kind.schema name
  /-- Without a change there is nothing to be validated. -/
  valid : changed ≠ [] → e.kind.schema.faults wanted.attributes = []
  covered : ∀ name, Differs e.kind.schema wanted current name → e.IsCovered name

/-- Every update is either accepted or rejected. -/
theorem accepts_or_rejects (e : Engine σ) (identifier : String) (current : State)
    (wanted : Resource) :
    (∃ changed, e.Accepts current wanted changed) ∨
      ∃ failure, e.Rejects identifier current wanted failure := by
  -- The reasons are looked for in their order, and each but the last takes one kind of list.
  have listed := Change.changed_lists e.kind.schema wanted current
  have fixed := Change.fixed_lists e.kind.schema wanted current
  have uncovered := e.uncovered_lists wanted current
  cases present : current.present with
  | false => exact .inr ⟨_, .gone present⟩
  | true =>
    by_cases movable : ∀ name, Differs e.kind.schema wanted current name →
        ¬IsFixed e.kind.schema name
    · -- Without a difference there is nothing to object to.
      by_cases same : ∀ name, ¬Differs e.kind.schema wanted current name
      · have nothing := listed.eq_nil_iff.mpr same
        exact .inl ⟨_, present, listed, movable, fun changes => absurd nothing changes,
          fun name differs => absurd differs (same name)⟩
      · rw [not_forall_not] at same
        by_cases valid : e.kind.schema.faults wanted.attributes = []
        · by_cases covered : ∀ name, Differs e.kind.schema wanted current name → e.IsCovered name
          · exact .inl ⟨_, present, listed, movable, fun _ => valid, covered⟩
          · refine .inr ⟨_, .uncovered present movable valid uncovered ?_⟩
            rw [ne_eq, uncovered.eq_nil_iff]
            simpa using covered
        · exact .inr ⟨_, .faulty present movable same valid⟩
    · refine .inr ⟨_, .fixed present fixed ?_⟩
      rw [ne_eq, fixed.eq_nil_iff]
      simpa using movable

/-- A rejected update has no plan. -/
theorem Rejects.plan {failure : Failure} (rejects : e.Rejects identifier current wanted failure) :
    e.plan identifier current wanted = .error failure := by
  -- The conditions of each reason exclude those that are looked for before it.
  cases rejects with
  | gone absent => rw [Engine.plan, Change.between_of_absent absent]
  | fixed present listed nonempty =>
    rw [Engine.plan, Change.between_of_fixed present listed nonempty]
  | faulty present movable changes faulty =>
    obtain ⟨name, differs⟩ := changes
    rw [Engine.plan, Change.between_of_differs present movable differs]
    simp only [validate_eq, if_neg faulty]
    rfl
  | @uncovered names present movable valid left nonempty =>
    -- An attribute on the list differs, so the plan gets as far as to this check.
    obtain ⟨name, member⟩ := List.exists_mem_of_ne_nil names nonempty
    have differs := ((left.mem_iff name).mp member).1
    have same := (e.uncovered_lists wanted current).unique left
    rw [Engine.plan, Change.between_of_differs present movable differs]
    simp only [validate_eq, if_pos valid, same]
    simp only [Bind.bind, Except.bind, List.isEmpty_eq_false_iff.mpr nonempty, Bool.false_eq_true,
      if_false]

/-- An accepted update is planned with the attributes that change. -/
theorem Accepts.plan {changed : List String} (accepts : e.Accepts current wanted changed)
    (identifier : String) : e.plan identifier current wanted = .ok changed := by
  -- Without a change the resource is not even validated, so that case stands by itself.
  rw [Engine.plan, Change.between_of_movable accepts.present accepts.movable accepts.listed]
  cases changed with
  | nil => rfl
  | cons first rest =>
    have covered : (first :: rest).filter (fun name => !e.isUpdatable name) = [] := by
      rw [List.filter_eq_nil_iff]
      intro name member
      have differs := (accepts.listed.mem_iff name).mp member
      simpa using isUpdatable_iff.mpr (accepts.covered name differs)
    simp only [List.isEmpty_cons, Bool.false_eq_true, if_false, validate_eq,
      if_pos (accepts.valid (List.cons_ne_nil first rest)), covered]
    rfl

/-- A group is only touched by a change, and then the resource has been validated. -/
theorem Accepts.sound_of_touches {changed : List String} {group : UpdateGroup}
    (accepts : e.Accepts current wanted changed) (touches : group.touches changed = true) :
    e.kind.schema.faults wanted.attributes = [] := by
  -- No group is touched by an empty change.
  apply accepts.valid
  rintro rfl
  simp [UpdateGroup.touches] at touches

/-- What an accepted update sets of a fixed attribute agrees with what the state has of it. -/
theorem Accepts.agrees_of_fixed {changed : List String} (accepts : e.Accepts current wanted changed)
    {a : Attribute} {name : String} {value : Value} (known : e.kind.schema.find? name = some a)
    (fixed : a.forceNew = true) (settable : a.computed = false)
    (plain : name.toList.head? ≠ some '_') (set : wanted.get? name = some value) :
    ∃ had, current.attributes.get? name = some had ∧ value.agrees had = true := by
  -- Otherwise the attribute would differ, and be a reason for a new object.
  by_contra disagrees
  have differs : Differs e.kind.schema wanted current name :=
    { unequal := ⟨value, set, fun had there => by
        simpa using fun agrees => disagrees ⟨had, there, agrees⟩⟩
      plain
      settable := fun b again => Option.some.inj (known.symm.trans again) ▸ settable }
  exact accepts.movable name differs ⟨a, known, fixed⟩

/-- An update has no plan exactly when it is rejected. -/
theorem plan_eq_error_iff {failure : Failure} :
    e.plan identifier current wanted = .error failure ↔
      e.Rejects identifier current wanted failure := by
  -- There is no third outcome, so the plan tells acceptance and rejection apart.
  refine ⟨fun planned => ?_, Rejects.plan⟩
  rcases e.accepts_or_rejects identifier current wanted with ⟨_, accepts⟩ | ⟨_, rejects⟩
  · rw [accepts.plan identifier] at planned
    cases planned
  · rw [rejects.plan] at planned
    cases planned
    exact rejects

/-- An update has a plan exactly when it is accepted. -/
theorem plan_eq_ok_iff {changed : List String} :
    e.plan identifier current wanted = .ok changed ↔ e.Accepts current wanted changed := by
  refine ⟨fun planned => ?_, fun accepts => accepts.plan identifier⟩
  rcases e.accepts_or_rejects identifier current wanted with ⟨_, accepts⟩ | ⟨_, rejects⟩
  · rw [accepts.plan identifier] at planned
    cases planned
    exact accepts
  · rw [rejects.plan] at planned
    cases planned

end Engine

end Provision
