import Provision.Proofs.Path.Token

/-! The reader of path expressions finds exactly the paths that the grammar derives. -/

namespace Provision.Path

open Grammar

/-- A filter is read up to the first character behind its last spaces. -/
theorem readFilter_recognises :
    Recognises (fun text => readFilterAt (skipBlanks text)) Filter isBlank where
  sound {text rest segment} read := by
    -- What was read is a name, a comparison and a literal, in this order.
    obtain ⟨before, skipped, spaces⟩ := skipBlanks_derived text
    unfold readFilterAt at read
    split at read
    · rename_i starts
      obtain ⟨⟨negated, behindOperator⟩, operator, read⟩ := exists_of_bind_eq_ok read
      obtain ⟨⟨literal, behindLiteral⟩, quoted, same⟩ := exists_of_bind_eq_ok read
      cases same
      -- The parts in the order in which they were read, each with the spaces behind it.
      obtain ⟨named, split, isName⟩ := name_derived starts
      obtain ⟨between, skippedBetween, spacesBetween⟩ :=
        skipBlanks_derived (afterName (skipBlanks text))
      obtain ⟨compared, splitOperator, isOperator⟩ := readOperator_recognises.sound operator
      obtain ⟨behind, skippedBehind, spacesBehind⟩ := skipBlanks_derived behindOperator
      obtain ⟨literalText, splitLiteral, isLiteral⟩ := readLiteral_recognises.sound quoted
      obtain ⟨after, skippedAfter, spacesAfter⟩ := skipBlanks_derived behindLiteral
      refine ⟨_, ?_, .mk spaces isName spacesBetween isOperator spacesBehind isLiteral
        spacesAfter⟩
      simp only [List.append_assoc]
      rw [← skippedAfter, ← splitLiteral, ← skippedBehind, ← splitOperator, ← skippedBetween,
        ← split]
      exact skipped
    · cases read
  complete {part segment} derived rest ends := by
    obtain ⟨spaces, isName, spacesBetween, isOperator, spacesBehind, isLiteral, spacesAfter⟩ :=
      derived
    rename_i before between behind after named compared quoted name negated literal
    simp only [List.append_assoc]
    -- From the end to the start, for each part ends where the next one starts.
    have literalRead := readLiteral_recognises.complete isLiteral (after ++ rest) (by simp)
    have behindSkipped := skipBlanks_spaces spacesBehind (quoted ++ (after ++ rest))
      (by cases isLiteral <;> rfl)
    have operatorRead := readOperator_recognises.complete isOperator
      (behind ++ (quoted ++ (after ++ rest))) (by simp)
    have betweenSkipped := skipBlanks_spaces spacesBetween
      (compared ++ (behind ++ (quoted ++ (after ++ rest)))) (by cases isOperator <;> rfl)
    -- What follows the name is a space or a comparison, and neither continues it.
    have nameEnds : (between ++ (compared ++ (behind ++ (quoted ++ (after ++ rest))))).head?.any
        isNameChar = false :=
      head?_append_any (fun c member => not_isNameChar_of_isSpace (spacesBetween c member))
        (by cases isOperator <;> rfl)
    obtain ⟨starts, nameRead, left⟩ := name_complete isName nameEnds
    have beforeSkipped := skipBlanks_spaces spaces _ (not_isBlank_of_isNameStart starts)
    rw [beforeSkipped, readFilterAt, if_pos starts, left, betweenSkipped, operatorRead]
    simp only [Bind.bind, Except.bind]
    rw [behindSkipped, literalRead]
    simp only [nameRead, skipBlanks_spaces spacesAfter rest ends]
    rfl

/-- What starts like an index is read as one. -/
theorem readBracketContent_index {text : List Char}
    (starts : text.head?.any (fun c => c == '-' || c.isDigit) = true) :
    readBracketContent text =
      (readIndex text).map fun (position, rest) => (.index position, rest) := by
  -- Such a text starts neither with a star nor with a question mark, and is not empty.
  unfold readBracketContent
  split
  · cases starts
  · cases starts
  · rename_i c rest _ _
    have accepted : (c == '-' || c.isDigit) = true := starts
    rw [if_pos accepted]
    cases readIndex (c :: rest) <;> rfl
  · cases starts

/-- An index starts with a minus sign or with a digit. -/
theorem Grammar.Index.starts {part : List Char} {position : Int} (derived : Index part position)
    (rest : List Char) :
    (part ++ rest).head?.any (fun c => c == '-' || c.isDigit) = true := by
  -- Without a minus sign, a first digit is there.
  cases derived with
  | plain decimal =>
    have digit := decimal.starts
    cases part with
    | nil => cases digit
    | cons c part =>
      have digit : c.isDigit = true := digit
      simp [digit]
  | minus => rfl

/-- The content of a bracket is read up to the bracket that closes it. -/
theorem readBracketContent_recognises :
    Recognises readBracketContent Content (· != ']') where
  sound {text rest segment} read := by
    -- The first character tells a wildcard, a filter and an index apart.
    unfold readBracketContent at read
    split at read
    · cases read
      exact ⟨['*'], rfl, .wildcard⟩
    · obtain ⟨part, rfl, isFilter⟩ := readFilter_recognises.sound read
      exact ⟨'?' :: part, rfl, .filter isFilter⟩
    · split at read
      · obtain ⟨⟨position, after⟩, index, same⟩ := exists_of_bind_eq_ok read
        cases same
        obtain ⟨part, whole, isIndex⟩ := readIndex_recognises.sound index
        exact ⟨part, whole, .index isIndex⟩
      · cases read
    · cases read
  complete {part segment} derived rest ends := by
    -- Nothing but the closing bracket can follow, which is neither a space nor a digit.
    have closed (p : Char → Bool) (other : p ']' = false) : rest.head?.any p = false := by
      cases rest with
      | nil => rfl
      | cons c rest =>
        have closing : c = ']' := by simpa using ends
        simpa [closing] using other
    cases derived with
    | wildcard => rfl
    | filter isFilter => exact readFilter_recognises.complete isFilter rest (closed _ rfl)
    | index isIndex =>
      have read := readIndex_recognises.complete isIndex rest (closed _ rfl)
      rw [readBracketContent_index (isIndex.starts rest), read]
      rfl

/-- A bracket is read from behind its opening up to its end. -/
theorem readBracket_recognises :
    Recognises readBracket (fun part => Bracket ('[' :: part)) fun _ => false where
  sound {text rest segment} read := by
    -- The content is read first, and the closing bracket has to follow it.
    obtain ⟨⟨found, left⟩, content, closed⟩ := exists_of_bind_eq_ok read
    obtain ⟨part, rfl, isContent⟩ := readBracketContent_recognises.sound content
    dsimp only at closed
    split at closed
    · cases closed
      exact ⟨part ++ [']'], by simp, .mk isContent⟩
    · cases closed
  complete {part segment} derived rest _ := by
    -- The content is told from the closing bracket, so that may follow it at once.
    obtain ⟨isContent⟩ := derived
    rename_i text
    have content := readBracketContent_recognises.complete isContent (']' :: rest) rfl
    rw [List.append_assoc, List.singleton_append, readBracket, content]
    rfl

/-- Where a name starts behind a dot, the step is to that name. -/
theorem readDotted_name {text : List Char} (starts : text.head?.any isNameStart = true) :
    readDotted text = .ok (.field (name text), afterName text) := by
  unfold readDotted
  split
  · cases starts
  · rename_i c rest _
    have first : isNameStart c = true := starts
    rw [if_pos first]
  · cases starts

/-- A step is read from behind its dot, a name as far as it goes. -/
theorem readDotted_recognises :
    Recognises readDotted (fun part => Step ('.' :: part)) isNameChar where
  sound {text rest segment} read := by
    -- Behind the dot stands a star or the start of a name.
    unfold readDotted at read
    split at read
    · cases read
      exact ⟨['*'], rfl, .wildcard⟩
    · split at read
      · rename_i c more _ starts
        cases read
        have named : (c :: more).head?.any isNameStart = true := starts
        obtain ⟨part, whole, isName⟩ := name_derived named
        exact ⟨part, whole, .field isName⟩
      · cases read
    · cases read
  complete {part segment} derived rest ends := by
    -- The name ends where the reader stops, as no character of a name may follow.
    cases derived with
    | wildcard => rfl
    | field isName =>
      obtain ⟨starts, nameRead, left⟩ := name_complete isName ends
      rw [readDotted_name starts, nameRead, left]
    | bracket isBracket => nomatch isBracket

/-- Behind a dot a step is read, and further ones behind it. -/
theorem readSegments_dot (text : List Char) : readSegments ('.' :: text) = do
    let (segment, after) ← readDotted text
    let (more, rest) ← readSegments after
    return (segment :: more, rest) := by
  -- A dot is only read in front of its step, and failures of the two readers are handed on.
  rw [readSegments]
  split
  · rename_i stop read
    rw [read]
    rfl
  · rename_i segment after read
    simp only [read, Bind.bind, Except.bind]
    cases readSegments after <;> rfl

/-- Behind an opening bracket a step is read, and further ones behind it. -/
theorem readSegments_bracket (text : List Char) : readSegments ('[' :: text) = do
    let (segment, after) ← readBracket text
    let (more, rest) ← readSegments after
    return (segment :: more, rest) := by
  -- The same holds of a bracket.
  rw [readSegments]
  split
  · rename_i stop read
    rw [read]
    rfl
  · rename_i segment after read
    simp only [read, Bind.bind, Except.bind]
    cases readSegments after <;> rfl

/-- The characters that lengthen a row of steps: those of a name, and those in front of a step. -/
def continuesSteps (c : Char) : Bool := isNameChar c || c == '.' || c == '['

/-- Where a row of steps ends also a name does. -/
theorem not_isNameChar_of_continuesSteps {rest : List Char}
    (ends : rest.head?.any continuesSteps = false) : rest.head?.any isNameChar = false := by
  -- What continues a name continues steps as well.
  cases rest with
  | nil => rfl
  | cons c rest =>
    have other : continuesSteps c = false := ends
    simp only [continuesSteps, Bool.or_eq_false_iff] at other
    exact other.1.1

/-- In front of a row of steps a name has ended. -/
theorem Grammar.Steps.ends {part rest : List Char} {segments : List Segment}
    (derived : Steps part segments) (ends : rest.head?.any isNameChar = false) :
    (part ++ rest).head?.any isNameChar = false := by
  -- A further step starts with a dot or a bracket, which no name has in it.
  cases derived with
  | nil => exact ends
  | cons step more =>
    cases step with
    | wildcard => rfl
    | field => rfl
    | bracket isBracket =>
      cases isBracket
      rfl

/-- A step is read as the first one of a row, a name as far as it goes. -/
theorem readSegments_step {part rest : List Char} {segment : Segment} (step : Step part segment)
    (ends : rest.head?.any isNameChar = false) : readSegments (part ++ rest) = do
      let (more, after) ← readSegments rest
      return (segment :: more, after) := by
  -- The sort of the step decides which reader takes its first character.
  cases step with
  | wildcard =>
    have read := readDotted_recognises.complete .wildcard rest ends
    rw [List.cons_append, readSegments_dot, read]
    rfl
  | field isName =>
    have read := readDotted_recognises.complete (.field isName) rest ends
    rw [List.cons_append, readSegments_dot, read]
    rfl
  | bracket isBracket =>
    obtain ⟨isContent⟩ := isBracket
    have read := readBracket_recognises.complete (.mk isContent) rest (by simp)
    rw [List.cons_append, readSegments_bracket, read]
    rfl

/-- A step in front of a row of steps that is sound makes it longer by one. -/
theorem Grammar.Step.sound {first after rest : List Char} {segment : Segment}
    {segments : List Segment} (step : Step first segment)
    (further : ∀ {more}, readSegments after = .ok (more, rest) →
      ∃ part, after = part ++ rest ∧ Steps part more)
    (read : (do
      let (more, left) ← readSegments after
      return (segment :: more, left)) = .ok (segments, rest)) :
    ∃ part, first ++ after = part ++ rest ∧ Steps part segments := by
  -- The further steps are derived from what the first one has left.
  obtain ⟨⟨more, left⟩, others, same⟩ := exists_of_bind_eq_ok read
  cases same
  obtain ⟨part, rfl, isSteps⟩ := further others
  exact ⟨first ++ part, (List.append_assoc first part rest).symm, .cons step isSteps⟩

/-- Steps are read as long as there is a dot or a bracket. -/
theorem readSegments_recognises : Recognises readSegments Steps continuesSteps where
  sound {text rest segments} read := by
    -- Each step leaves a shorter text, from which the further ones are read.
    induction text using readSegments.induct generalizing segments with
    | case1 text stop failed =>
      rw [readSegments_dot, failed] at read
      cases read
    | case2 text segment after step _ ih =>
      rw [readSegments_dot, step] at read
      obtain ⟨first, rfl, isStep⟩ := readDotted_recognises.sound step
      -- The dot belongs to the step that was read behind it.
      exact isStep.sound ih read
    | case3 text stop failed =>
      rw [readSegments_bracket, failed] at read
      cases read
    | case4 text segment after step _ ih =>
      rw [readSegments_bracket, step] at read
      obtain ⟨first, rfl, isBracket⟩ := readBracket_recognises.sound step
      exact (Step.bracket isBracket).sound ih read
    | case5 text noDot noBracket =>
      -- Without a dot or a bracket there are no steps.
      rw [readSegments] at read
      · cases read
        exact ⟨[], rfl, .nil⟩
      · exact noDot
      · exact noBracket
  complete {part segments} derived rest ends := by
    -- What ends the row also ends a name in its last step.
    have nameEnds := not_isNameChar_of_continuesSteps ends
    induction derived with
    | nil =>
      rw [List.nil_append, readSegments]
      · rintro text rfl
        cases ends
      · rintro text rfl
        cases ends
    | cons step more ih =>
      -- A name ends where the next step starts.
      rw [List.append_assoc, readSegments_step step (more.ends nameEnds), ih]
      rfl

/-- Where a name starts, a stage can start with it. -/
theorem readStart_name {text : List Char} (starts : text.head?.any isNameStart = true) :
    readStart text = .ok (.field (name text), afterName text) := by
  -- A bracket does not start a name.
  unfold readStart
  split
  · cases starts
  · rename_i c rest _
    have first : isNameStart c = true := starts
    rw [if_pos first]
  · cases starts

/-- The first step of a stage is read, a name as far as it goes. -/
theorem readStart_recognises : Recognises readStart Start isNameChar where
  sound {text rest segment} read := by
    -- A bracket is told by its first character, and so is a name.
    unfold readStart at read
    split at read
    · obtain ⟨part, rfl, isBracket⟩ := readBracket_recognises.sound read
      exact ⟨'[' :: part, rfl, .bracket isBracket⟩
    · split at read
      · rename_i c more _ starts
        cases read
        have named : (c :: more).head?.any isNameStart = true := starts
        obtain ⟨part, whole, isName⟩ := name_derived named
        exact ⟨part, whole, .field isName⟩
      · cases read
    · cases read
  complete {part segment} derived rest ends := by
    -- Both alternatives are recognised by readers of their own.
    cases derived with
    | bracket isBracket =>
      obtain ⟨isContent⟩ := isBracket
      exact readBracket_recognises.complete (.mk isContent) rest (by simp)
    | field isName =>
      obtain ⟨starts, nameRead, left⟩ := name_complete isName ends
      rw [readStart_name starts, nameRead, left]

/-- No spaces are left to be skipped in front of the first step. -/
theorem Grammar.Start.ends {part : List Char} {segment : Segment} (derived : Start part segment)
    (rest : List Char) : (part ++ rest).head?.any isBlank = false := by
  -- Neither a bracket nor the first character of a name is blank.
  cases derived with
  | bracket isBracket =>
    cases isBracket
    rfl
  | field isName =>
    apply not_isBlank_of_isNameStart
    cases isName with
    | mk starts => simpa using isNameStart_iff.mpr starts

/-- A stage is read as far as its steps go. -/
theorem readStage_recognises : Recognises readStage Stage continuesSteps where
  sound {text rest stage} read := by
    -- Spaces, the first step and the others are read one behind the other.
    obtain ⟨before, skipped, spaces⟩ := skipBlanks_derived text
    obtain ⟨⟨first, left⟩, start, read⟩ := exists_of_bind_eq_ok read
    obtain ⟨⟨more, after⟩, further, same⟩ := exists_of_bind_eq_ok read
    cases same
    obtain ⟨part, split, isStart⟩ := readStart_recognises.sound start
    obtain ⟨others, rfl, isSteps⟩ := readSegments_recognises.sound further
    refine ⟨before ++ (part ++ others), ?_, .mk spaces isStart isSteps⟩
    rw [List.append_assoc, List.append_assoc, ← split]
    exact skipped
  complete {part stage} derived rest ends := by
    obtain ⟨spaces, isStart, isSteps⟩ := derived
    -- A name at the start ends where the first step behind it begins.
    have start := readStart_recognises.complete isStart _
      (isSteps.ends (not_isNameChar_of_continuesSteps ends))
    have further := readSegments_recognises.complete isSteps rest ends
    rw [List.append_assoc, List.append_assoc, readStage,
      skipBlanks_spaces spaces _ (isStart.ends _), start]
    simp only [Bind.bind, Except.bind, further]
    rfl

/-- Behind a stage the text ends, or a bar and further stages follow. -/
theorem readStages_of_stage {text rest : List Char} {stage : List Segment}
    (read : readStage text = .ok (stage, rest)) : readStages text =
      match skipBlanks rest with
      | [] => .ok [stage]
      | '|' :: after => (readStages after).map (stage :: ·)
      | c :: after => .error ⟨c :: after, .unexpected c⟩ := by
  -- The reader itself is unfolded once, and each of its branches is told apart by what is left.
  rw [readStages]
  split
  · -- The stage was read, so this branch is not taken.
    rename_i stop failed
    rw [read] at failed
    cases failed
  · rename_i same
    rw [read] at same
    cases same
    split
    · rename_i left
      rw [left]
    · rename_i left
      simp only [left]
    · -- What is neither the end nor a bar is reported where it stands.
      rename_i noBar left
      rw [left]
      split
      · rename_i empty
        cases empty
      · rename_i bar
        cases bar
        exact (noBar rfl).elim
      · rename_i other
        cases other
        rfl

/-- Where no stage is read there are no stages. -/
theorem readStages_of_error {text : List Char} {stop : Stop} (read : readStage text = .error stop) :
    readStages text = .error stop := by
  -- The stop of the stage is handed on.
  rw [readStages]
  split
  · rename_i same
    rw [read] at same
    cases same
    rfl
  · rename_i found
    rw [read] at found
    cases found

/-- Behind a stage with spaces behind it there is nothing that continues its steps. -/
theorem not_continuesSteps {after : List Char} (spaces : Spaces after) (rest : List Char)
    (ends : rest.head?.any continuesSteps = false) :
    (after ++ rest).head?.any continuesSteps = false := by
  -- No space is part of a step.
  refine head?_append_any (fun c member => ?_) ends
  have space := spaces c member
  simp only [IsSpace, List.mem_cons, List.not_mem_nil, or_false] at space
  rcases space with rfl | rfl | rfl | rfl | rfl
  all_goals rfl

/-- Expressions are read to their end. -/
theorem readStages_eq_ok_iff {text : List Char} {stages : List (List Segment)} :
    readStages text = .ok stages ↔ Expression text stages := by
  constructor
  · intro read
    -- Behind a bar the text is shorter, and further stages are read from there.
    induction text using readStages.induct generalizing stages with
    | case1 text stop failed =>
      rw [readStages_of_error failed] at read
      cases read
    | case2 text stage rest here left =>
      -- The text ends behind the stage and its spaces.
      rw [readStages_of_stage here, left] at read
      cases read
      obtain ⟨part, rfl, isStage⟩ := readStage_recognises.sound here
      obtain ⟨after, skipped, spaces⟩ := skipBlanks_derived rest
      rw [left, List.append_nil] at skipped
      rw [skipped]
      exact .last isStage spaces
    | case3 text stage rest here after left _ ih =>
      rw [readStages_of_stage here, left] at read
      -- A bar follows, and behind it the further stages have to be read.
      have read : (readStages after).map (stage :: ·) = .ok stages := read
      cases further : readStages after with
      | error stop =>
        rw [further] at read
        cases read
      | ok more =>
        rw [further] at read
        cases read
        obtain ⟨part, rfl, isStage⟩ := readStage_recognises.sound here
        obtain ⟨between, skipped, spaces⟩ := skipBlanks_derived rest
        rw [left] at skipped
        rw [skipped]
        exact .pipe isStage spaces (ih further)
    | case4 text stage rest here c after noBar left =>
      rw [readStages_of_stage here, left] at read
      -- Anything else is where reading stops.
      split at read
      · rename_i empty
        cases empty
      · rename_i bar
        cases bar
        exact (noBar rfl).elim
      · cases read
  · intro derived
    -- In the other direction the induction is on the derivation.
    induction derived with
    | @last part after stage isStage spaces =>
      have read := readStage_recognises.complete isStage after (by
        simpa using not_continuesSteps spaces [] rfl)
      have left : skipBlanks after = [] := by
        simpa using skipBlanks_spaces spaces [] rfl
      rw [readStages_of_stage read, left]
    | @pipe part after rest stage stages isStage spaces _ ih =>
      have read := readStage_recognises.complete isStage _
        (not_continuesSteps spaces ('|' :: rest) rfl)
      have left := skipBlanks_spaces spaces ('|' :: rest) rfl
      rw [readStages_of_stage read, left]
      show (readStages rest).map (stage :: ·) = .ok (stage :: stages)
      rw [ih]
      rfl

/-- An expression is parsed exactly when the grammar derives it, with the stages that it is derived
with, and is an error otherwise. -/
theorem parse_eq_ok_iff_expression (expression : String) :
    (∀ path, parse expression = .ok path ↔
      path.source = expression ∧ Expression expression.toList path.stages) ∧
    ((∃ error, parse expression = .error error) ↔
      ¬∃ stages, Expression expression.toList stages) := by
  -- Whether there is a path is whether the stages are read; an error is only given its place.
  unfold parse
  dsimp only
  cases read : readStages expression.toList with
  | ok found =>
    have derived := readStages_eq_ok_iff.mp read
    refine ⟨fun path => ⟨?_, ?_⟩, iff_of_false (fun ⟨_, failed⟩ => nomatch failed) ?_⟩
    · rintro ⟨rfl⟩
      exact ⟨rfl, derived⟩
    · rintro ⟨rfl, other⟩
      -- The reader answers once, so there is one way to derive the expression.
      have same := readStages_eq_ok_iff.mpr other
      rw [read] at same
      cases same
      rfl
    · exact fun underived => underived ⟨found, derived⟩
  | error stop =>
    -- A derivation would have been read.
    have underived : ¬∃ stages, Expression expression.toList stages := by
      rintro ⟨stages, derived⟩
      have found := readStages_eq_ok_iff.mpr derived
      rw [read] at found
      cases found
    refine ⟨fun path => iff_of_false (fun found => nomatch found) ?_,
      iff_of_true ⟨_, rfl⟩ underived⟩
    rintro ⟨-, derived⟩
    exact underived ⟨_, derived⟩

end Provision.Path
