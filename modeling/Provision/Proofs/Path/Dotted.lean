import Provision.Body.Attributes
import Provision.Path.Extract
import Provision.Proofs.Path.Parse

/-! A dotted key of names is a path as well, and selects what stands at the key's position. -/

namespace Provision

/-- A text is its first part and behind it the other parts, each with a separator in front. -/
theorem Text.split_joined (separator : Char) (text : List Char) :
    ∃ part parts, split separator text = part :: parts ∧
      text = part ++ parts.flatMap (separator :: ·) := by
  -- A separator opens a new part, and any other character belongs to the part behind it.
  induction text with
  | nil => exact ⟨[], [], rfl, rfl⟩
  | cons c rest ih =>
    obtain ⟨part, parts, cut, joined⟩ := ih
    rw [split, cut]
    by_cases separates : c = separator
    · refine ⟨[], part :: parts, if_pos separates, ?_⟩
      rw [joined, separates, List.flatMap_cons, List.nil_append, List.cons_append]
    · refine ⟨c :: part, parts, if_neg separates, ?_⟩
      rw [joined, List.cons_append]

/-- What keys lead to in a document, each of them into an object. -/
def Document.at? : List String → Document → Option Document
  | [], d => some d
  | key :: rest, d => (d.get? key).bind (at? rest)

namespace Path

/-- A text is a name that a path can step to. -/
def IsName (text : List Char) : Prop :=
  text.head?.any isNameStart = true ∧ text.all isNameChar = true

instance (text : List Char) : Decidable (IsName text) := inferInstanceAs (Decidable (_ ∧ _))

/-- Such a text is a name of the grammar, and stands for itself. -/
theorem IsName.derived {text : List Char} (named : IsName text) :
    Grammar.Name text (String.ofList text) :=
  name_iff.mpr ⟨named.1, List.all_eq_true.mp named.2, rfl⟩

/-- A string whose characters are such a text is the name that they stand for. -/
theorem IsName.named {name : String} (named : IsName name.toList) :
    Grammar.Name name.toList name := by
  -- The string of the characters is the name itself.
  simpa using named.derived

/-- An expression that the grammar derives is read as the path with the derived stages. -/
theorem parse_of_derived {expression : String} {text : List Char} {stages : List (List Segment)}
    (written : expression.toList = text) (derived : Grammar.Expression text stages) :
    parse expression = .ok ⟨expression, stages⟩ := by
  -- The grammar and the reader agree on every text.
  rw [parse, readStages_eq_ok_iff.mpr (written ▸ derived)]

/-- Names with a dot in front of each of them are steps. -/
theorem steps_dotted {names : List (List Char)} (named : ∀ text ∈ names, IsName text) :
    Grammar.Steps (names.flatMap ('.' :: ·))
      (names.map fun text => .field (String.ofList text)) := by
  -- Each name adds one step in front of the others.
  induction names with
  | nil => exact .nil
  | cons text rest ih =>
    obtain ⟨here, later⟩ := List.forall_mem_cons.mp named
    rw [List.flatMap_cons]
    exact .cons (.field here.derived) (ih later)

/-- A dotted key of names is read as the path along its position. -/
theorem parse_dotted {key : String} (named : ∀ part ∈ Text.split '.' key.toList, IsName part) :
    parse key = .ok ⟨key, [(Body.position key).map .field]⟩ := by
  -- The parts of the key are the names that the grammar finds between its dots.
  obtain ⟨part, parts, cut, joined⟩ := Text.split_joined '.' key.toList
  rw [cut] at named
  obtain ⟨first, others⟩ := List.forall_mem_cons.mp named
  have nothing : Grammar.Spaces [] := by simp [Grammar.Spaces]
  have stage : Grammar.Stage key.toList
      ((part :: parts).map fun text => .field (String.ofList text)) := by
    rw [joined]
    exact Grammar.Stage.mk nothing (.field first.derived) (steps_dotted others)
  -- The first part opens the stage, and the others are its steps.
  rw [parse_of_derived (List.append_nil _).symm (.last stage nothing), Body.position, cut,
    List.map_map]
  rfl

/-- Steps to names go along keys, and only a null in the end counts as missing. -/
theorem walk_fields (keys : List String) (d : Document) :
    (walk (keys.map .field) d).bind Value.ofDocument? = (d.at? keys).bind Value.ofDocument? := by
  -- A null on the way ends the steps at once, and keys do not lead out of it either.
  induction keys generalizing d with
  | nil => rfl
  | cons key rest ih =>
    rw [List.map_cons, walk, Document.at?]
    cases found : d.get? key with
    | none => rfl
    | some next =>
      rw [Option.bind_some, ← ih]
      cases next with
      | null => cases rest <;> rfl
      | _ => rfl

/-- A path along keys selects the value that stands at their end. -/
theorem evaluate_fields (source : String) (keys : List String) (d : Document) :
    (evaluate ⟨source, [keys.map .field]⟩ d).bind Value.ofDocument? =
      (d.at? keys).bind Value.ofDocument? := by
  -- A single stage is only a walk.
  rw [← walk_fields, evaluate]
  simp only [pipe, Option.bind_fun_some]
  -- A null at the end has no value either.
  split
  · rename_i null
    rw [null]
    rfl
  · rfl

end Path

end Provision
