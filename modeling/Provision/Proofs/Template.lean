import Provision.Request.Template
import Provision.Proofs.Path.Token

/-! A template is cut at the names that stand in braces in it, from left to right, and its path puts
the parameters in their places. -/

namespace Provision.Template

open Path.Grammar (IsLetter IsDigit)

/-- A name in braces: a letter or an underscore, and behind it also digits. -/
inductive Hole : List Char → String → Prop where
  | mk {first : Char} {rest : List Char} : IsLetter first ∨ first = '_' →
      (∀ c ∈ rest, IsLetter c ∨ IsDigit c ∨ c = '_') →
      Hole ('{' :: (first :: rest ++ ['}'])) (String.ofList (first :: rest))

/-- No name in braces starts within a text, whatever of it lies in the rest behind. -/
def IsLiteral (text rest : List Char) : Prop :=
  ∀ before part after name, text ++ rest = before ++ (part ++ after) → Hole part name →
    text.length ≤ before.length

/-- A text is cut at the leftmost name in braces, and what is behind that name in the same way.
This leaves a first literal part, and for each name the literal part behind it. -/
inductive Cut : List Char → List Char → List (String × List Char) → Prop where
  | whole {text : List Char} : IsLiteral text [] → Cut text text []
  | hole {literal part rest next : List Char} {name : String} {more : List (String × List Char)} :
      IsLiteral literal (part ++ rest) → Hole part name → Cut rest next more →
      Cut (literal ++ (part ++ rest)) literal ((name, next) :: more)

/-- Each name gives way to its parameter, as it is, in front of the literal part behind it. -/
inductive Fills (params : Dict String) : List (String × List Char) → List Char → Prop where
  | nil : Fills params [] []
  | cons {name value : String} {next text : List Char} {more : List (String × List Char)} :
      params.get? name = some value → Fills params more text →
      Fills params ((name, next) :: more) (value.toList ++ (next ++ text))

/-- No name in braces starts within an empty text. -/
theorem isLiteral_nil (rest : List Char) : IsLiteral [] rest :=
  fun _ _ _ _ _ _ => Nat.zero_le _

/-- No name in braces starts within a text if none starts at its first character or later. -/
theorem isLiteral_cons_iff {c : Char} {text rest : List Char} :
    IsLiteral (c :: text) rest ↔
      (∀ part after name, c :: (text ++ rest) = part ++ after → ¬Hole part name) ∧
        IsLiteral text rest := by
  -- A name starts at the first character or at one behind it.
  constructor
  · intro literal
    refine ⟨fun part after name same hole => ?_, fun before part after name same hole => ?_⟩
    · -- Nothing is passed before the first character.
      exact absurd (literal [] part after name same hole) (by simp)
    · -- What is passed behind it is passed behind one character more.
      simpa using literal (c :: before) part after name (congrArg (c :: ·) same) hole
  · rintro ⟨here, further⟩ before part after name same hole
    cases before with
    | nil => exact absurd hole (here part after name same)
    | cons first before => simpa using further before part after name (List.cons.inj same).2 hole

/-- Letters and underscores start a name. -/
theorem isNameStart_iff {c : Char} : isNameStart c = true ↔ IsLetter c ∨ c = '_' := by
  rw [isNameStart, Bool.or_eq_true, Path.isAlpha_iff, beq_iff_eq]

/-- Letters, digits and underscores continue a name. -/
theorem isNameChar_iff {c : Char} :
    isNameChar c = true ↔ IsLetter c ∨ IsDigit c ∨ c = '_' := by
  simp [isNameChar, IsDigit, Char.isAlphanum, Path.isAlpha_iff, Char.isDigit, Char.le_def, or_assoc]

/-- A name is read behind an opening brace exactly where a name in braces stands. -/
theorem readHole?_eq_some_iff {text after : List Char} {name : String} :
    readHole? text = some (name, after) ↔ ∃ part, '{' :: text = part ++ after ∧ Hole part name := by
  -- The name is the longest run of its characters, and it has to end in front of a brace.
  constructor
  · intro read
    unfold readHole? at read
    dsimp only at read
    split at read
    · rename_i closed
      -- The run is a name if its first character can start one.
      obtain ⟨starts, same⟩ := Option.ite_none_right_eq_some.mp read
      cases same
      have whole := List.takeWhile_append_dropWhile (p := isNameChar) (l := text)
      have all := List.all_eq_true.mp (List.all_takeWhile (p := isNameChar) (l := text))
      rw [closed] at whole
      cases taken : text.takeWhile isNameChar with
      | nil => simp [taken] at starts
      | cons first rest =>
        rw [taken] at starts all whole
        refine ⟨_, ?_, .mk (isNameStart_iff.mp (by simpa using starts)) fun c member =>
          isNameChar_iff.mp (all c (List.mem_cons_of_mem _ member))⟩
        rw [← whole]
        simp
    · cases read
  · rintro ⟨_, same, @⟨first, rest, starts, continues⟩⟩
    -- All of the name continues a name, and the brace behind it does not.
    have all : ∀ c ∈ first :: rest, isNameChar c = true := by
      intro c member
      rw [isNameChar_iff]
      rcases List.mem_cons.mp member with rfl | later
      · exact starts.imp id .inr
      · exact continues c later
    have split : text = (first :: rest) ++ '}' :: after := by simpa using same
    have ends : ('}' :: after).head?.any isNameChar = false := rfl
    obtain ⟨taken, dropped⟩ := Path.span_append all ends
    rw [readHole?, split, taken, dropped]
    simp [isNameStart_iff.mpr starts]

/-- The first character of a text in which no name starts is a piece of its own. -/
theorem parts_cons {c : Char} {text : List Char}
    (free : ∀ part after name, c :: text = part ++ after → ¬Hole part name) :
    parts (c :: text) = .char c :: parts text := by
  -- Even an opening brace is an ordinary character if no name can be read behind it.
  rw [parts]
  split
  · rename_i opens
    split
    · rename_i name after read
      obtain ⟨part, same, hole⟩ := readHole?_eq_some_iff.mp read
      exact absurd hole (free part after name (opens ▸ same))
    · rfl
  · rfl

/-- The pieces of a text in which no name starts are its characters, one by one. -/
theorem parts_append {text rest : List Char} (literal : IsLiteral text rest) :
    parts (text ++ rest) = text.map .char ++ parts rest := by
  -- No name starts at any character, so each is a piece of its own.
  induction text with
  | nil => rfl
  | cons c text ih =>
    obtain ⟨here, further⟩ := isLiteral_cons_iff.mp literal
    rw [List.cons_append, parts_cons here, ih further, List.map_cons, List.cons_append]

/-- A name in braces is one piece. -/
theorem parts_hole {part rest : List Char} {name : String} (hole : Hole part name) :
    parts (part ++ rest) = .hole name :: parts rest := by
  -- What is read behind the opening brace is this very name.
  have split : ∃ text, part ++ rest = '{' :: text := by
    cases hole
    exact ⟨_, rfl⟩
  obtain ⟨text, split⟩ := split
  have read : readHole? text = some (name, rest) :=
    readHole?_eq_some_iff.mpr ⟨part, split.symm, hole⟩
  rw [split, parts, if_pos rfl]
  split
  · rename_i found
    rw [read] at found
    cases found
    rfl
  · rename_i missed
    rw [read] at missed
    cases missed

/-- The pieces of a cut: characters of the literal parts, and the names between them. -/
def pieces (literal : List Char) (holes : List (String × List Char)) : List Part :=
  literal.map .char ++ holes.flatMap fun hole => .hole hole.1 :: hole.2.map .char

/-- The literal parts and names that pieces are made of. -/
def collect : List Part → List Char × List (String × List Char)
  | [] => ([], [])
  | .char c :: rest => (c :: (collect rest).1, (collect rest).2)
  | .hole name :: rest => ([], (name, (collect rest).1) :: (collect rest).2)

/-- Pieces are collected as they were laid out. -/
theorem collect_pieces (literal : List Char) (holes : List (String × List Char)) :
    collect (pieces literal holes) = (literal, holes) := by
  -- The names are taken one after the other, and in front of each one its literal part.
  induction holes generalizing literal with
  | nil =>
    induction literal with
    | nil => rfl
    | cons c rest ih => exact congrArg (fun parts => (c :: parts.1, parts.2)) ih
  | cons hole more behind =>
    obtain ⟨name, next⟩ := hole
    induction literal with
    | nil =>
      have here := behind next
      exact congrArg (fun parts => ([], (name, parts.1) :: parts.2)) here
    | cons c rest ih => exact congrArg (fun parts => (c :: parts.1, parts.2)) ih

/-- The pieces of a text that has been cut are those of the cut. -/
theorem Cut.parts_eq {text literal : List Char} {holes : List (String × List Char)}
    (cut : Cut text literal holes) : parts text = pieces literal holes := by
  -- The induction is on the cut: a literal part, a name, and the cut of the rest.
  induction cut with
  | @whole text literal => simpa [pieces, parts] using parts_append literal
  | hole literal hole _ ih => rw [parts_append literal, parts_hole hole, ih]; simp [pieces]

/-- A character at which no name starts belongs to the first literal part. -/
theorem Cut.cons {c : Char} {text literal : List Char} {holes : List (String × List Char)}
    (cut : Cut text literal holes)
    (free : ∀ part after name, c :: text = part ++ after → ¬Hole part name) :
    Cut (c :: text) (c :: literal) holes := by
  -- All that changes is the first literal part.
  cases cut with
  | whole literal =>
    refine .whole (isLiteral_cons_iff.mpr ⟨?_, literal⟩)
    simpa using free
  | hole literal hole more => exact .hole (isLiteral_cons_iff.mpr ⟨free, literal⟩) hole more

/-- A text is cut where its pieces are names. -/
theorem cut_collect (text : List Char) :
    Cut text (collect (parts text)).1 (collect (parts text)).2 := by
  -- The induction is on the length, for a name takes several characters.
  match text with
  | [] =>
    rw [parts]
    exact .whole (isLiteral_nil [])
  | c :: rest =>
    -- Either the first character is literal, or a whole name is taken off.
    by_cases free : ∀ part after name, c :: rest = part ++ after → ¬Hole part name
    · rw [parts_cons free]
      exact (cut_collect rest).cons free
    · push Not at free
      obtain ⟨part, after, name, same, hole⟩ := free
      have shorter : after.length < (c :: rest).length := by
        cases hole
        simp [same]
        omega
      rw [same, parts_hole hole]
      exact .hole (isLiteral_nil _) hole (cut_collect after)
termination_by text.length
decreasing_by
  · exact Nat.lt_succ_self _
  · exact shorter

/-- A text is cut in one way only. -/
theorem cut_iff {text literal : List Char} {holes : List (String × List Char)} :
    Cut text literal holes ↔ (literal, holes) = collect (parts text) := by
  -- A cut has the pieces of the text, and the pieces give back the cut.
  constructor
  · intro cut
    rw [cut.parts_eq, collect_pieces]
  · intro same
    have cut := cut_collect text
    rwa [← same] at cut

/-- Characters are kept where they are. -/
theorem fill_map_char (params : Dict String) (literal : List Char) (more : List Part) :
    fill params (literal.map .char ++ more) = (fill params more).map (literal ++ ·) := by
  -- Characters are never a reason to fail, so only what follows decides.
  induction literal with
  | nil => cases filled : fill params more <;> exact filled
  | cons c rest ih =>
    rw [List.map_cons, List.cons_append, fill, ih]
    cases fill params more <;> rfl

/-- Without names a literal part is all there is. -/
theorem fill_pieces_nil (params : Dict String) (literal : List Char) :
    fill params (pieces literal []) = .ok literal := by
  rw [pieces, fill_map_char, List.flatMap_nil, fill, Except.map, List.append_nil]

/-- A name that is a parameter is filled in behind the first literal part. -/
theorem fill_pieces_of_some {params : Dict String} {name value : String}
    (known : params.get? name = some value) (literal next : List Char)
    (more : List (String × List Char)) : fill params (pieces literal ((name, next) :: more)) =
      (fill params (pieces next more)).map fun text => literal ++ (value.toList ++ text) := by
  -- In front of what follows come the literal part and the value.
  rw [pieces, fill_map_char, List.flatMap_cons, List.cons_append, fill, known]
  change Except.map _ (Except.map _ (fill params (pieces next more))) = _
  cases fill params (pieces next more) <;> rfl

/-- A name that is no parameter is told if it comes first. -/
theorem fill_pieces_of_none {params : Dict String} {name : String}
    (unknown : params.get? name = none) (literal next : List Char)
    (more : List (String × List Char)) :
    fill params (pieces literal ((name, next) :: more)) = .error name := by
  -- What follows an unknown name is not looked at.
  rw [pieces, fill_map_char, List.flatMap_cons, List.cons_append, fill, unknown]
  rfl

/-- Pieces are filled if all their names are parameters, and the values stand in their places. -/
theorem exists_fills {params : Dict String} {holes : List (String × List Char)}
    (known : ∀ hole ∈ holes, (params.get? hole.1).isSome = true) (literal : List Char) :
    ∃ text, Fills params holes text ∧
      fill params (pieces literal holes) = .ok (literal ++ text) := by
  -- The induction is on the names from the left, each with the literal part behind it.
  induction holes generalizing literal with
  | nil => exact ⟨[], .nil, by rw [fill_pieces_nil, List.append_nil]⟩
  | cons hole more ih =>
    obtain ⟨name, next⟩ := hole
    obtain ⟨value, first⟩ := Option.isSome_iff_exists.mp (known (name, next) List.mem_cons_self)
    obtain ⟨text, fills, filled⟩ :=
      ih (fun hole member => known hole (List.mem_cons_of_mem _ member)) next
    exact ⟨_, .cons first fills, by rw [fill_pieces_of_some first, filled]; rfl⟩

/-- Pieces cannot be filled if some name is no parameter, and the first such name is told. -/
theorem fill_pieces_eq_error {params : Dict String} {before after : List (String × List Char)}
    {name : String} (known : ∀ hole ∈ before, (params.get? hole.1).isSome = true)
    (unknown : params.get? name = none) (literal next : List Char) :
    fill params (pieces literal (before ++ (name, next) :: after)) = .error name := by
  -- The names before the unknown one are filled in, and then it fails.
  induction before generalizing literal with
  | nil => exact fill_pieces_of_none unknown literal next after
  | cons hole more ih =>
    obtain ⟨value, first⟩ := Option.isSome_iff_exists.mp (known hole List.mem_cons_self)
    have behind := ih (fun hole member => known hole (List.mem_cons_of_mem _ member)) hole.2
    rw [List.cons_append, fill_pieces_of_some first, behind]
    rfl

/-- If not all names are parameters, there is a first one that is none. -/
theorem exists_first_unknown {params : Dict String} {holes : List (String × List Char)}
    (some : ¬∀ hole ∈ holes, (params.get? hole.1).isSome = true) :
    ∃ before name next after, holes = before ++ (name, next) :: after ∧
      (∀ hole ∈ before, (params.get? hole.1).isSome = true) ∧ params.get? name = none := by
  -- The names are searched for one that is no parameter, and the search stops at the first.
  cases first : holes.find? fun hole => (params.get? hole.1).isNone with
  | none =>
    refine absurd (fun hole member => ?_) some
    simpa [Option.isSome_iff_ne_none] using List.find?_eq_none.mp first hole member
  | some hole =>
    obtain ⟨unknown, before, after, same, known⟩ := List.find?_eq_some_iff_append.mp first
    refine ⟨before, hole.1, hole.2, after, same, fun hole member => ?_, by simpa using unknown⟩
    simpa [Option.isSome_iff_ne_none] using known hole member

/--
A path is its template with each name in braces replaced by the parameter of that name.

The template is cut in one way only: at the leftmost name in braces, and behind it in the same way.
There is a path exactly if all the names are parameters. It has the literal parts as they were, also
the braces in them, and the values as they are, also names in braces in them. Otherwise the first
name that is no parameter is told.
-/
theorem resolve_cut (template : String) (params : Dict String) :
    ∃ literal holes,
      (∀ first more, Cut template.toList first more ↔ first = literal ∧ more = holes) ∧
      ((∃ path, resolve template params = .ok path) ↔
        ∀ hole ∈ holes, (params.get? hole.1).isSome = true) ∧
      (∀ path, resolve template params = .ok path →
        ∃ text, Fills params holes text ∧ path = String.ofList (literal ++ text)) ∧
      ∀ failure, resolve template params = .error failure ↔
        ∃ before name next after, holes = before ++ (name, next) :: after ∧
          (∀ hole ∈ before, (params.get? hole.1).isSome = true) ∧ params.get? name = none ∧
          failure = .unresolvedPlaceholder template name := by
  -- The cut at hand is what is collected from the pieces of the template.
  obtain ⟨literal, holes, collected⟩ :
      ∃ literal holes, (literal, holes) = collect (parts template.toList) := ⟨_, _, rfl⟩
  have laid : parts template.toList = pieces literal holes := (cut_iff.mpr collected).parts_eq
  refine ⟨literal, holes, fun first more => by rw [cut_iff, ← collected, Prod.mk.injEq], ?_⟩
  -- A first unknown name is the failure, whatever else is unknown behind it.
  have told : ∀ before name next after, holes = before ++ (name, next) :: after →
      (∀ hole ∈ before, (params.get? hole.1).isSome = true) → params.get? name = none →
      resolve template params = .error (.unresolvedPlaceholder template name) := by
    intro before name next after same known unknown
    rw [resolve, laid, same, fill_pieces_eq_error known unknown]
  by_cases known : ∀ hole ∈ holes, (params.get? hole.1).isSome = true
  · -- With all names known there is a path, and no name to be told.
    obtain ⟨text, fills, filled⟩ := exists_fills known literal
    have resolved : resolve template params = .ok (String.ofList (literal ++ text)) := by
      rw [resolve, laid, filled]
    refine ⟨⟨fun _ => known, fun _ => ⟨_, resolved⟩⟩, ?_, fun failure => ⟨?_, ?_⟩⟩
    · intro path same
      exact ⟨text, fills, Except.ok.inj (same.symm.trans resolved)⟩
    · intro failed
      rw [resolved] at failed
      cases failed
    · rintro ⟨before, name, next, after, same, knownBefore, unknown, rfl⟩
      exact told before name next after same knownBefore unknown
  · -- Otherwise there is a first unknown name, and no path.
    obtain ⟨before, name, next, after, same, knownBefore, unknown⟩ := exists_first_unknown known
    have failed := told before name next after same knownBefore unknown
    have stuck : ∀ path, resolve template params ≠ .ok path := fun path resolved => by
      rw [failed] at resolved
      cases resolved
    refine ⟨⟨fun ⟨path, resolved⟩ => absurd resolved (stuck path), fun all => absurd all known⟩,
      fun path resolved => absurd resolved (stuck path), fun failure => ⟨fun failedToo => ?_, ?_⟩⟩
    · have cause := Except.error.inj (failedToo.symm.trans failed)
      exact ⟨before, name, next, after, same, knownBefore, unknown, cause⟩
    · rintro ⟨before, name, next, after, same, knownBefore, unknown, rfl⟩
      exact told before name next after same knownBefore unknown

/-- Braces around no name stay, and a value that looks like a name in braces is not replaced. -/
example :
    resolve "v1/\x7b\x7bid\x7d\x7d/\x7b\x7d/\x7b2nd\x7d" (Dict.empty.insert "id" "\x7bid\x7d") =
      .ok "v1/\x7b\x7bid\x7d\x7d/\x7b\x7d/\x7b2nd\x7d" := by
  cbv

end Provision.Template
