/-! Dictionaries keep their entries in strictly increasing order of
keys, so equal contents are equal data. -/

namespace Provision

variable {α β : Type}

namespace Entries

/-- The value that comes first under a key. -/
def get? (key : String) : List (String × α) → Option α
  | [] => none
  | (k, v) :: rest => if k = key then some v else get? key rest

/-- A value put under a key in key order, in place of the one already there. -/
def insert (key : String) (value : α) : List (String × α) → List (String × α)
  | [] => [(key, value)]
  | (k, v) :: rest =>
    if key < k then (key, value) :: (k, v) :: rest
    else if key = k then (key, value) :: rest
    else (k, v) :: insert key value rest

/-- The entries under other keys. -/
def erase (key : String) (entries : List (String × α)) : List (String × α) :=
  entries.filter (·.1 ≠ key)

/-- Entries are ordered when each key is smaller than all later ones. -/
def Ordered (entries : List (String × α)) : Prop :=
  entries.Pairwise (fun a b => a.1 < b.1)

instance (entries : List (String × α)) : Decidable (Ordered entries) :=
  inferInstanceAs (Decidable (entries.Pairwise _))

/-- After an insertion there is the new entry, and otherwise only what was there before. -/
theorem mem_insert {key : String} {value : α} {entries : List (String × α)} {e : String × α}
    (member : e ∈ insert key value entries) : e = (key, value) ∨ e ∈ entries := by
  -- The new entry goes before the head, replaces it, or goes somewhere behind it.
  induction entries with
  | nil => simpa [insert] using member
  | cons head rest ih =>
    obtain ⟨k, v⟩ := head
    simp only [insert] at member
    split at member
    · simpa using member
    · split at member
      · rcases List.mem_cons.mp member with here | later
        · exact Or.inl here
        · exact Or.inr (List.mem_cons_of_mem _ later)
      · rcases List.mem_cons.mp member with here | later
        · exact Or.inr (by simp [here])
        · exact (ih later).imp id (List.mem_cons_of_mem _)

/-- Insertion keeps the order of keys. -/
theorem Ordered.insert {key : String} {value : α} {entries : List (String × α)}
    (ordered : Ordered entries) : Ordered (Entries.insert key value entries) := by
  -- The head stays smaller than all later keys, whether they are old or the new one.
  induction entries with
  | nil => simp [Entries.insert, Ordered]
  | cons head rest ih =>
    obtain ⟨k, v⟩ := head
    obtain ⟨below, tail⟩ := List.pairwise_cons.mp ordered
    simp only [Entries.insert]
    split
    · rename_i smaller
      refine List.pairwise_cons.mpr ⟨fun e member => ?_, ordered⟩
      rcases List.mem_cons.mp member with here | later
      · simpa [here] using smaller
      · exact String.lt_trans smaller (below e later)
    · split
      · rename_i same
        exact List.pairwise_cons.mpr ⟨fun e member => same ▸ below e member, tail⟩
      · rename_i notBelow notSame
        refine List.pairwise_cons.mpr ⟨fun e member => ?_, ih tail⟩
        rcases mem_insert member with here | later
        · -- Keys are totally ordered, so the new one is larger than the head.
          subst here
          exact Std.lt_of_le_of_ne (Std.not_lt.mp notBelow) (Ne.symm notSame)
        · exact below e later

end Entries

/-- Values under distinct keys, listed in key order. -/
structure Dict (α : Type) where
  entries : List (String × α)
  ordered : Entries.Ordered entries

namespace Dict

instance [DecidableEq α] : DecidableEq (Dict α) := fun a b =>
  if same : a.entries = b.entries then
    .isTrue (by cases a; cases b; cases same; rfl)
  else .isFalse (fun equal => same (equal ▸ rfl))

/-- The dictionary without entries. -/
def empty : Dict α := ⟨[], List.Pairwise.nil⟩

instance : Inhabited (Dict α) := ⟨empty⟩

/-- The value under a key. -/
def get? (d : Dict α) (key : String) : Option α := Entries.get? key d.entries

/-- Whether a key has a value. -/
def contains (d : Dict α) (key : String) : Bool := (d.get? key).isSome

/-- A value put under a key, in place of the one already there. -/
def insert (d : Dict α) (key : String) (value : α) : Dict α :=
  ⟨Entries.insert key value d.entries, d.ordered.insert⟩

/-- A value put under a key that has none. -/
def insertNew (d : Dict α) (key : String) (value : α) : Dict α :=
  if d.contains key then d else d.insert key value

/-- The dictionary of a list of entries, of which the last under a key counts. -/
def ofList (entries : List (String × α)) : Dict α :=
  entries.foldl (fun d e => d.insert e.1 e.2) empty

/-- The entries that pass a test on key and value. -/
def filter (d : Dict α) (keep : String → α → Bool) : Dict α :=
  ⟨d.entries.filter (fun e => keep e.1 e.2), d.ordered.filter _⟩

/-- The keys in order. -/
def keys (d : Dict α) : List String := d.entries.map (·.1)

/-- Whether there are no entries. -/
def isEmpty (d : Dict α) : Bool := d.entries.isEmpty

end Dict

end Provision
