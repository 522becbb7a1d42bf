import Provision.Path.Extract
import Provision.Proofs.Dict

/-! Flattening a document finds each attribute at its own read path, or fails over a path that is
malformed. -/

namespace Provision.Path

/-- The value that a document shows of an attribute, if the attribute is read. -/
def shown? (d : Document) (a : Attribute) : Option Value :=
  a.readPath.bind fun expression => (parse expression).toOption.bind fun path =>
    (path.evaluate d).bind Value.ofDocument?

/-- An attribute's read path is well formed, if there is one. -/
def IsReadable (a : Attribute) : Prop :=
  ∀ expression, a.readPath = some expression → ∃ path, parse expression = .ok path

variable {d : Document} {a : Attribute}

/-- An attribute that can be read is entered with what the document shows of it. -/
theorem flattenList_cons (readable : IsReadable a) (rest : List Attribute) (found : Attributes) :
    flattenList d (a :: rest) found =
      flattenList d rest ((shown? d a).elim found (found.insert a.name)) := by
  -- An attribute without a read path is readable and shows nothing.
  cases reads : a.readPath with
  | none => simp only [flattenList, shown?, reads, Option.bind_none, Option.elim_none]
  | some expression =>
    obtain ⟨path, parsed⟩ := readable expression reads
    have shows : shown? d a = (path.evaluate d).bind Value.ofDocument? := by
      simp only [shown?, reads, parsed, Except.toOption, Option.bind_some]
    simp only [flattenList, reads, parsed, shows, Bind.bind, Except.bind]
    cases (path.evaluate d).bind Value.ofDocument? <;> rfl

/-- An attribute that cannot be read is the end of flattening. -/
theorem flattenList_of_not_readable (unreadable : ¬IsReadable a) (rest : List Attribute)
    (found : Attributes) : ∃ failure, flattenList d (a :: rest) found = .error failure := by
  -- Then there is a read path, and it does not parse.
  obtain ⟨expression, reads⟩ := Classical.not_forall.mp unreadable
  obtain ⟨reads, malformed⟩ := Classical.not_imp.mp reads
  cases parsed : parse expression with
  | ok path => exact absurd ⟨path, parsed⟩ malformed
  | error failure =>
    refine ⟨failure, ?_⟩
    simp only [flattenList, reads, parsed, Bind.bind, Except.bind]

/-- Attributes are found exactly when all of them can be read. -/
theorem flattenList_isOk_iff (attributes : List Attribute) (found : Attributes) :
    (∃ result, flattenList d attributes found = .ok result) ↔ ∀ a ∈ attributes, IsReadable a := by
  -- Flattening goes on behind each attribute that can be read, and ends at the first other one.
  induction attributes generalizing found with
  | nil => exact iff_of_true ⟨found, rfl⟩ fun _ member => nomatch member
  | cons a rest ih =>
    rw [List.forall_mem_cons]
    by_cases readable : IsReadable a
    · rw [flattenList_cons readable, ih]
      exact (and_iff_right readable).symm
    · obtain ⟨failure, failed⟩ := flattenList_of_not_readable (d := d) readable rest found
      rw [failed]
      exact iff_of_false (fun ⟨_, answered⟩ => nomatch answered) fun both => readable both.1

/-- Attributes of distinct names are found one by one. -/
theorem flattenList_get? {entries : List (String × Attribute)} (ordered : Entries.Ordered entries)
    (named : ∀ entry ∈ entries, entry.2.name = entry.1) {found result : Attributes}
    (flat : flattenList d (entries.map (·.2)) found = .ok result) (name : String) :
    result.get? name = ((Entries.get? name entries).bind (shown? d)).or (found.get? name) := by
  -- Only the entry of the name counts, and no later entry has the same name.
  induction entries generalizing found with
  | nil =>
    cases flat
    simp [Entries.get?]
  | cons head rest ih =>
    obtain ⟨key, a⟩ := head
    obtain ⟨below, tail⟩ := List.pairwise_cons.mp ordered
    have own : a.name = key := named (key, a) (by simp)
    have readable : IsReadable a :=
      (flattenList_isOk_iff _ found).mp ⟨result, flat⟩ a (by simp)
    rw [List.map_cons, flattenList_cons readable] at flat
    rw [ih tail (fun entry member => named entry (List.mem_cons_of_mem _ member)) flat]
    by_cases here : key = name
    · -- The attribute itself is found, as no later entry has its name.
      have missing : Entries.get? name rest = none := here ▸ Entries.get?_of_below below
      rw [missing, Entries.get?, if_pos here, own, Option.bind_none, Option.none_or,
        Option.bind_some]
      cases shown? d a with
      | none => rw [Option.elim_none, Option.none_or]
      | some value => rw [Option.elim_some, Dict.get?_insert, if_pos here, Option.some_or]
    · rw [Entries.get?, if_neg here, own]
      cases shown? d a with
      | none => rw [Option.elim_none]
      | some value => rw [Option.elim_some, Dict.get?_insert, if_neg here]

/-- A document is flattened exactly when all attributes of the schema can be read. -/
theorem flatten_isOk_iff (s : Schema) (d : Document) :
    (∃ found, flatten s d = .ok found) ↔ ∀ a ∈ s.list, IsReadable a :=
  flattenList_isOk_iff s.list Dict.empty

/-- What is flattened has, under each name, what the document shows of the attribute. -/
theorem flatten_get? {s : Schema} {found : Attributes} (flat : flatten s d = .ok found)
    (name : String) : found.get? name = (s.find? name).bind (shown? d) := by
  -- The attributes of a schema are listed in the order of distinct names.
  rw [flattenList_get? s.attributes.ordered s.named flat name]
  exact Option.or_none

end Provision.Path
