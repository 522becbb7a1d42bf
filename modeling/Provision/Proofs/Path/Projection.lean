import Provision.Path

/-! Steps to one place can be chained or piped alike, and a comparison and its negation share out
between them what a wildcard projects. -/

namespace Provision

/-- A step leads to one place at most, and not to each of several. -/
def Segment.IsSingular : Segment → Prop
  | .field _ | .index _ => True
  | .wildcard | .filter .. => False

/-- An item has a field that agrees with a literal. -/
def Document.HasField (item : Document) (name : String) (literal : Document) : Prop :=
  ∃ value, item.get? name = some value ∧ value.agrees literal = true

namespace Path

/-- The test of an item is whether it has such a field. -/
theorem holdsField_iff {name : String} {literal item : Document} :
    holdsField name literal item = true ↔ item.HasField name literal := by
  -- An item without the field has none that agrees.
  unfold holdsField Document.HasField
  cases item.get? name <;> simp

/-- Steps behind singular ones go on from the place to which those lead. -/
theorem walk_append {first : List Segment} (singular : ∀ step ∈ first, step.IsSingular)
    (second : List Segment) (d : Document) :
    walk (first ++ second) d = (walk first d).bind (walk second) := by
  -- The induction is on the first steps: what ends one of them ends both sides alike.
  induction first generalizing d with
  | nil => rfl
  | cons step rest ih =>
    obtain ⟨here, later⟩ := List.forall_mem_cons.mp singular
    rw [List.cons_append]
    cases step with
    | field name =>
      -- The step to a field ends at a null or where there is no such field.
      rw [walk, walk]
      split
      · rfl
      · exact ih later _
      · rfl
    | index position =>
      cases d with
      | array items =>
        -- The step to an item needs an array.
        rw [walk, walk, Option.bind_assoc]
        exact congrArg _ (funext (ih later))
      | null | bool | number | string | object => rfl
    | wildcard | filter => exact here.elim

/-- Stages in two parts are gone through part by part. -/
theorem pipe_append (before after : List (List Segment)) (d : Document) :
    pipe (before ++ after) d = (pipe before d).bind (pipe after) := by
  -- The induction is on the first part: each stage goes on from what the one before has reached.
  induction before generalizing d with
  | nil => rfl
  | cons stage rest ih =>
    rw [List.cons_append, pipe, pipe, Option.bind_assoc]
    exact congrArg _ (funext ih)

/--
A stage of singular steps selects the same whether the next stage is piped or chained to it.

This holds in every document and between any other stages, wherever the steps lead: to a null, to a
field that is missing, or to a position that is out of range at either end.
-/
theorem evaluate_piped {first : List Segment} (singular : ∀ step ∈ first, step.IsSingular)
    (second : List Segment) (before after : List (List Segment)) (piped chained : String)
    (d : Document) :
    evaluate ⟨piped, before ++ first :: second :: after⟩ d =
      evaluate ⟨chained, before ++ (first ++ second) :: after⟩ d := by
  have stages : pipe (before ++ first :: second :: after) =
      pipe (before ++ (first ++ second) :: after) := by
    -- All that lies around the two stages takes part alike, so it can be left aside.
    funext d
    rw [pipe_append, pipe_append]
    congr 1
    funext reached
    rw [pipe, pipe, walk_append singular, Option.bind_assoc]
    rfl
  simp only [evaluate, stages]

/-- The last of some volumes has the same name either way, and there is none behind the least
position of 64 bits. -/
theorem evaluate_piped_volumes :
    let d : Document := .object [("volumes", .array
      [.object [("id", .string "v-1")], .object [("id", .string "v-2"), ("name", .null)]])]
    let volume (position : Int) : List Segment := [.field "volumes", .index position]
    (∀ position, evaluate ⟨"piped", [volume position, [.field "id"]]⟩ d =
        evaluate ⟨"chained", [volume position ++ [.field "id"]]⟩ d) ∧
      evaluate ⟨"volumes[-1].id", [volume (-1) ++ [.field "id"]]⟩ d = some (.string "v-2") ∧
      evaluate ⟨"volumes[-1].name", [volume (-1) ++ [.field "name"]]⟩ d = none ∧
      evaluate ⟨"volumes[-9223372036854775808].id",
        [volume (-9223372036854775808) ++ [.field "id"]]⟩ d = none := by
  -- Both steps lead to one place, whatever the position is.
  intro d volume
  refine ⟨fun position => ?_, rfl, rfl, rfl⟩
  exact evaluate_piped (by simp [volume, Segment.IsSingular]) _ [] [] _ _ _

/-- Behind a projection it makes a difference: a pipe takes what has been projected together. -/
example :
    let d : Document := .array [.array [.bool true, .bool false]]
    walk [.wildcard, .index 0] d = some (.array [.bool true]) ∧
      pipe [[.wildcard], [.index 0]] d = some (.array [.bool true, .bool false]) := ⟨rfl, rfl⟩

/-- Two lists make up a third one in order: each of its items comes next in one of them. -/
inductive Merge {α : Type} : List α → List α → List α → Prop where
  | nil : Merge [] [] []
  | first {item : α} {first second whole : List α} : Merge first second whole →
      Merge (item :: first) second (item :: whole)
  | second {item : α} {first second whole : List α} : Merge first second whole →
      Merge first (item :: second) (item :: whole)

/-- What is projected from items, and how a comparison shares it out: what the rest leads to from an
item is on the one side if the item has the field, and on the other side if not. -/
inductive Shares (name : String) (literal : Document) (rest : List Segment) :
    List Document → List Document → List Document → List Document → Prop where
  | nil : Shares name literal rest [] [] [] []
  | dropped {item : Document} {items same other whole : List Document} :
      walk rest item = none → Shares name literal rest items same other whole →
      Shares name literal rest (item :: items) same other whole
  | same {item found : Document} {items same other whole : List Document} :
      walk rest item = some found → item.HasField name literal →
      Shares name literal rest items same other whole →
      Shares name literal rest (item :: items) (found :: same) other (found :: whole)
  | other {item found : Document} {items same other whole : List Document} :
      walk rest item = some found → ¬item.HasField name literal →
      Shares name literal rest items same other whole →
      Shares name literal rest (item :: items) same (found :: other) (found :: whole)

/-- The two sides of a comparison make up the whole in order. -/
theorem Shares.merge {name : String} {literal : Document} {rest : List Segment}
    {items same other whole : List Document}
    (shares : Shares name literal rest items same other whole) : Merge same other whole := by
  -- What is dropped is on neither side, and so the whole lacks it, too.
  induction shares with
  | nil => exact .nil
  | dropped _ _ ih => exact ih
  | same _ _ _ ih => exact .first ih
  | other _ _ _ ih => exact .second ih

/-- What is projected from the items that pass the test, from those that do not, and from all. -/
theorem shares_filterMap (name : String) (literal : Document) (rest : List Segment)
    (items : List Document) : Shares name literal rest items
      ((items.filter fun item => holdsField name literal item != false).filterMap (walk rest))
      ((items.filter fun item => holdsField name literal item != true).filterMap (walk rest))
      (items.filterMap (walk rest)) := by
  -- Each item is on one side of the comparison, and the rest leads on from it or not.
  induction items with
  | nil => exact .nil
  | cons item items ih =>
    cases led : walk rest item with
    -- An item that the rest does not lead on from is dropped from all three.
    | none => cases held : holdsField name literal item <;> simpa [held, led] using ih.dropped led
    -- Any other is on the side that its field puts it on, and in the whole.
    | some found =>
      cases held : holdsField name literal item with
      | true => simpa [held, led] using ih.same led (holdsField_iff.mp held)
      | false =>
        have lacks : ¬item.HasField name literal := by rw [← holdsField_iff, held]; simp
        simpa [held, led] using ih.other led lacks

/--
A comparison and its negation share out between them what a wildcard projects from an array.

All three results are arrays, and that of the wildcard is made up of the two others in order. An
item that is no object or lacks the field is on the side of the negation.
-/
theorem filter_shares_wildcard (name : String) (literal : Document) (rest : List Segment)
    (items : List Document) (equal unequal all : String) :
    ∃ same other whole,
      evaluate ⟨equal, [.filter name false literal :: rest]⟩ (.array items) =
        some (.array same) ∧
      evaluate ⟨unequal, [.filter name true literal :: rest]⟩ (.array items) =
        some (.array other) ∧
      evaluate ⟨all, [.wildcard :: rest]⟩ (.array items) = some (.array whole) ∧
      Shares name literal rest items same other whole ∧ Merge same other whole :=
  have shares := shares_filterMap name literal rest items
  ⟨_, _, _, rfl, rfl, rfl, shares, shares.merge⟩

end Path

end Provision
