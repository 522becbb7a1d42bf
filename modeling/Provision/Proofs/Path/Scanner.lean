import Provision.Proofs.Path.Parse
import Provision.Proofs.Path.Position

/-! Scanning a path expression in place goes along with reading its characters, so nothing goes
wrong with a position: what is found is the same, and faults lie at the same place. -/

namespace Provision.Path.Scanner

/-- Scanning finds what goes with the finding of reading, or both meet a fault at one place. No
other halt of scanning goes with anything that can happen to a reader. -/
inductive Follows (s : String) (Goes : α → β → Prop) : Except Halt α → Except Stop β → Prop where
  | found {scanned : α} {read : β} (goes : Goes scanned read) :
    Follows s Goes (.ok scanned) (.ok read)
  | fault {position : Nat} {rest : List Char} {fault : Fault} (place : At s position rest) :
    Follows s Goes (fail s position fault.reason) (.error ⟨rest, fault⟩)

/-- The same has been found, and the position is where the rest starts. -/
def Same (s : String) (scanned : α × Nat) (read : α × List Char) : Prop :=
  scanned.1 = read.1 ∧ At s scanned.2 read.2

section Steps

variable {s : String} {Goes : α → β → Prop} {scanned : Except Halt α} {read : Except Stop β}

/-- Findings that go together are followed by steps that do. -/
theorem Follows.bind (first : Follows s Goes scanned read) {Later : γ → δ → Prop}
    {scan : α → Except Halt γ} {reader : β → Except Stop δ}
    (next : ∀ a b, Goes a b → Follows s Later (scan a) (reader b)) :
    Follows s Later (scanned >>= scan) (read >>= reader) := by
  -- A fault is handed on by both, at the place where it was met.
  cases first with
  | found goes => exact next _ _ goes
  | fault place => exact .fault place

/-- The same is made of what both have found. -/
theorem Follows.map {scanned : Except Halt α} {read : Except Stop α}
    (follows : Follows s Eq scanned read) (f : α → β) :
    Follows s Eq (do return f (← scanned)) (read.map f) := by
  -- A finding is mapped on both sides, and a fault stays what it is.
  cases follows with
  | found same => exact .found (congrArg f same)
  | fault place => exact .fault place

/-- Where scanning has found something for certain, the reader may already have gone on. -/
theorem Follows.of_found {value : γ} {first : Except Halt γ} (found : first = .ok value)
    {scan : γ → Except Halt α} (next : Follows s Goes (scan value) read) :
    Follows s Goes (first >>= scan) read := by
  rw [found]
  exact next

/-- Moving the position is a step that reading has no need of. -/
theorem Reaches.bind {rest : List Char} {moved : Except Halt Nat} (reaches : Reaches s moved rest)
    {scan : Nat → Except Halt α} (next : ∀ position, At s position rest →
      Follows s Goes (scan position) read) : Follows s Goes (moved >>= scan) read := by
  -- A move always arrives, so the next step has a place to start from.
  obtain ⟨position, moves, place⟩ := reaches
  exact .of_found moves (next position place)

/-- After the last move a finding is complete. -/
theorem Reaches.found {rest : List Char} {moved : Except Halt Nat} (reaches : Reaches s moved rest)
    (value : α) :
    Follows s (Same s) (do return (value, ← moved)) (.ok (value, rest)) :=
  reaches.bind fun _ place => .found ⟨rfl, place⟩

end Steps

variable {s : String} {position : Nat} {text : List Char}

/-- Blanks are passed as the reader drops them. -/
theorem skipBlanks_reaches (place : At s position text) :
    Reaches s (skipBlanks s position) (Path.skipBlanks text) :=
  place.skipWhile isUniform_isBlank

/-- A run of characters that pass a test is cut out between the places where it starts and ends. -/
theorem slice_run {p : Char → Bool} {stop : Nat} (place : At s position text)
    (stopPlace : At s stop (text.dropWhile p)) :
    slice s position stop = .ok (String.ofList (text.takeWhile p)) := by
  rw [← List.takeWhile_append_dropWhile (p := p) (l := text)] at place
  exact place.slice stopPlace

/-- A name is scanned as it is read. -/
theorem scanName_eq (place : At s position text) :
    ∃ stop, scanName s position = .ok (name text, stop) ∧ At s stop (afterName text) := by
  -- The run of name characters is skipped first and cut out afterwards.
  obtain ⟨stop, skipped, stopPlace⟩ := place.skipWhile isUniform_isNameChar
  refine ⟨stop, ?_, stopPlace⟩
  have cut : slice s position stop = .ok (name text) := slice_run place stopPlace
  unfold scanName
  rw [skipped]
  show (do return (← slice s position stop, stop)) = _
  rw [cut]
  rfl

/-- The sign of an index is passed if there is one. -/
theorem skipSign_reaches (place : At s position text) :
    Reaches s (skipSign s position) (splitMinus text).2 := by
  -- A minus in front is seen by its byte, and is then one character for both.
  unfold skipSign
  by_cases minus : peek s position = some '-'
  · obtain ⟨digits, rfl⟩ := (place.peek_eq_some_iff (by decide)).mp minus
    rw [if_pos minus]
    exact At.advance ['-'] place rfl
  · rw [if_neg minus]
    -- The reader finds no sign either.
    have none : (splitMinus text).2 = text := by
      unfold splitMinus
      split
      · exact absurd (place.peek_ascii (by decide)) minus
      · rfl
    rw [none]
    exact place.reached

/-- A sign with a run of digits behind it counts as the reader counts it. -/
theorem integer?_run (text : List Char) :
    integer? (String.ofList ((if (splitMinus text).1 then ['-'] else []) ++
        (splitMinus text).2.takeWhile Char.isDigit)) =
      indexOf? (splitMinus text).1 ((splitMinus text).2.takeWhile Char.isDigit) := by
  -- The reader has the sign and the digits apart, the scanner has one text of both.
  rw [integer?, String.toList_ofList]
  cases sign : (splitMinus text).1 with
  | true => rfl
  | false =>
    rw [if_neg Bool.false_ne_true, List.nil_append]
    -- What starts a run of digits is no sign.
    cases run : (splitMinus text).2.takeWhile Char.isDigit with
    | nil => rfl
    | cons c digits =>
      have digit : c.isDigit = true :=
        List.all_eq_true.mp List.all_takeWhile c (run ▸ List.mem_cons_self)
      have single : [c].head?.any Char.isDigit = true := digit
      have whole := splitMinus_append single digits
      rw [List.singleton_append] at whole
      rw [whole]

/-- An index is scanned as it is read. -/
theorem scanIndex_follows (place : At s position text) :
    Follows s (Same s) (scanIndex s position) (readIndex text) := by
  -- Sign and digits are skipped, and then both are cut out together.
  apply (skipSign_reaches place).bind
  intro digits digitsPlace
  apply (digitsPlace.skipWhile isUniform_isDigit).bind
  intro stop stopPlace
  -- The cut takes the sign with it, if there is one.
  have cut : slice s position stop = .ok (String.ofList
      ((if (splitMinus text).1 then ['-'] else []) ++
        (splitMinus text).2.takeWhile Char.isDigit)) := by
    rw [splitMinus_eq text, ← List.takeWhile_append_dropWhile (p := Char.isDigit)
      (l := (splitMinus text).2), ← List.append_assoc] at place
    exact place.slice stopPlace
  apply Follows.of_found cut
  rw [integer?_run, readIndex_eq]
  cases indexOf? (splitMinus text).1 ((splitMinus text).2.takeWhile Char.isDigit) with
  | none => exact .fault stopPlace
  | some value => exact .found ⟨rfl, stopPlace⟩

/-- What is quoted is scanned up to its closing quote, over characters of any kind. -/
theorem scanQuoted_follows (place : At s position text) {quote : Char} (ascii : quote.toNat < 128) :
    Follows s (Same s) (scanQuoted s quote position) (readQuoted quote text) := by
  -- The run stops at the quote or at the end, since a quote is a character of ASCII.
  apply (place.skipWhile (isUniform_bne ascii)).bind
  intro stop stopPlace
  rw [slice_run place stopPlace]
  unfold readQuoted
  cases left : text.dropWhile (· != quote) with
  | nil =>
    rw [left] at stopPlace
    rw [stopPlace.peek_nil]
    exact .fault stopPlace
  | cons c rest =>
    rw [left] at stopPlace
    rw [stopPlace.peek_cons]
    -- Passing the run stopped at the quote itself.
    have closes : c = quote := by
      have stopped := List.head?_dropWhile_not (· != quote) text
      rw [left] at stopped
      simpa using stopped
    rw [closes] at stopPlace
    exact (At.advance [quote] stopPlace (byteLength_singleton ascii)).found _

/-- What is quoted stands for the same literal, or for none. -/
theorem quoted_follows {quote : Char} (place : At s position (quote :: text))
    (ascii : quote.toNat < 128) :
    Follows s (Same s)
      (do
        let (raw, after) ← scanQuoted s quote (← advance s position 1)
        match literal? quote raw with
        | some literal => return (literal, after)
        | none => fail s after Fault.badLiteral.reason)
      (do
        let (raw, after) ← readQuoted quote text
        match literal? quote raw with
        | some literal => return (literal, after)
        | none => .error ⟨after, .badLiteral⟩) := by
  -- The opening quote is passed, then what is quoted, and only then the literal is made.
  apply (At.advance [quote] place (byteLength_singleton ascii)).bind
  intro start startPlace
  apply (scanQuoted_follows startPlace ascii).bind
  rintro ⟨raw, after⟩ ⟨_, rest⟩ ⟨rfl, afterPlace⟩
  show Follows s (Same s) (match literal? quote raw with
    | some literal => return (literal, after)
    | none => fail s after Fault.badLiteral.reason) (match literal? quote raw with
    | some literal => return (literal, rest)
    | none => .error ⟨rest, .badLiteral⟩)
  cases literal? quote raw with
  | none => exact .fault afterPlace
  | some literal => exact .found ⟨rfl, afterPlace⟩

/-- A literal is scanned as it is read. -/
theorem scanLiteral_follows (place : At s position text) :
    Follows s (Same s) (scanLiteral s position) (readLiteral text) := by
  -- The two kinds of quotes are told apart by what may stand between them.
  unfold readLiteral
  split
  · rw [scanLiteral, place.peek_ascii (by decide)]
    exact quoted_follows place (by decide)
  · rw [scanLiteral, place.peek_ascii (by decide)]
    exact quoted_follows place (by decide)
  · rename_i noRaw noJson
    -- Neither of the quotes is seen where the reader has neither.
    have noQuote : (peek s position).filter (fun c => c == '\'' || c == '\x60') = none := by
      rw [Option.filter_eq_none_iff]
      intro c found
      simp only [Bool.or_eq_true, beq_iff_eq]
      rintro (rfl | rfl)
      · obtain ⟨rest, same⟩ := (place.peek_eq_some_iff (by decide)).mp found
        exact noRaw rest same
      · obtain ⟨rest, same⟩ := (place.peek_eq_some_iff (by decide)).mp found
        exact noJson rest same
    rw [scanLiteral, noQuote]
    exact .fault place

/-- A comparison is scanned as it is read. -/
theorem scanOperator_follows (place : At s position text) :
    Follows s (Same s) (scanOperator s position) (readOperator text) := by
  -- Two bytes are seen, or the reader has no operator.
  unfold scanOperator
  split
  · rename_i first second
    obtain ⟨rest, rfl⟩ := (place.peek_pair_iff (by decide) (by decide)).mp ⟨first, second⟩
    exact (At.advance ['=', '='] place rfl).found _
  · rename_i first second
    obtain ⟨rest, rfl⟩ := (place.peek_pair_iff (by decide) (by decide)).mp ⟨first, second⟩
    exact (At.advance ['!', '='] place rfl).found _
  · -- The reader finds none of the two either.
    rename_i noSame noOther
    unfold readOperator
    split
    · rename_i rest
      have found := (place.peek_pair_iff (by decide) (by decide)).mpr ⟨rest, rfl⟩
      exact (noSame found.1 found.2).elim
    · rename_i rest
      have found := (place.peek_pair_iff (by decide) (by decide)).mpr ⟨rest, rfl⟩
      exact (noOther found.1 found.2).elim
    · exact .fault place

/-- A filter is scanned as it is read. -/
theorem scanFilter_follows (place : At s position text) :
    Follows s (Same s) (scanFilter s position) (readFilterAt (Path.skipBlanks text)) := by
  -- Behind the blanks a name has to start, or both meet the same fault.
  apply (skipBlanks_reaches place).bind
  intro start startPlace
  unfold readFilterAt
  rw [startPlace.peek_any isUniform_isNameStart]
  split
  · -- Name, comparison and literal follow one another with blanks between them.
    obtain ⟨nameStop, named, namePlace⟩ := scanName_eq startPlace
    apply Follows.of_found named
    apply (skipBlanks_reaches namePlace).bind
    intro operator operatorPlace
    apply (scanOperator_follows operatorPlace).bind
    rintro ⟨negated, operatorStop⟩ ⟨_, behindOperator⟩ ⟨rfl, operatorPlace⟩
    apply (skipBlanks_reaches operatorPlace).bind
    intro literal literalPlace
    apply (scanLiteral_follows literalPlace).bind
    rintro ⟨literal, literalStop⟩ ⟨_, behindLiteral⟩ ⟨rfl, literalPlace⟩
    exact (skipBlanks_reaches literalPlace).found _
  · exact .fault startPlace

/-- The content of a bracket is scanned as it is read. -/
theorem scanContent_follows (place : At s position text) :
    Follows s (Same s) (scanContent s position) (readBracketContent text) := by
  -- A star, a question mark, any other character, and the end are four cases for both.
  unfold readBracketContent
  split
  · rw [scanContent, place.peek_ascii (by decide)]
    exact (At.advance ['*'] place rfl).found _
  · rw [scanContent, place.peek_ascii (by decide)]
    apply (At.advance ['?'] place rfl).bind
    intro start startPlace
    exact scanFilter_follows startPlace
  · -- The scanner sees the first byte, which is no star or question mark unless the character is.
    rename_i c rest noStar noFilter
    rw [scanContent, place.peek_cons]
    split
    · rename_i star
      exact (noStar ((lead_eq_iff (by decide)).mp (Option.some_inj.mp star))).elim
    · rename_i mark
      exact (noFilter ((lead_eq_iff (by decide)).mp (Option.some_inj.mp mark))).elim
    · rename_i same
      have starts : (lead c == '-' || (lead c).isDigit) = (c == '-' || c.isDigit) :=
        ((isUniform_beq (by decide)).or isUniform_isDigit).lead c
      rw [← Option.some_inj.mp same, starts]
      split
      · apply (scanIndex_follows place).bind
        rintro ⟨value, after⟩ ⟨_, rest⟩ ⟨rfl, afterPlace⟩
        exact .found ⟨rfl, afterPlace⟩
      · exact .fault place
    · contradiction
  · rw [scanContent, place.peek_nil]
    exact .fault place

/-- A bracket is scanned as it is read. -/
theorem scanBracket_follows (place : At s position ('[' :: text)) :
    Follows s (Same s) (scanBracket s position) (readBracket text) := by
  -- The bracket has been seen, so it can be passed.
  have opened : expect s position '[' = advance s position 1 :=
    if_pos (place.peek_ascii (by decide))
  unfold scanBracket
  rw [opened]
  apply (At.advance ['['] place rfl).bind
  intro start startPlace
  apply (scanContent_follows startPlace).bind
  rintro ⟨segment, after⟩ ⟨_, rest⟩ ⟨rfl, afterPlace⟩
  dsimp only
  -- Only the closing bracket can follow the content.
  split
  · have closed : expect s after ']' = advance s after 1 :=
      if_pos (afterPlace.peek_ascii (by decide))
    rw [closed]
    exact (At.advance [']'] afterPlace rfl).found _
  · rename_i noClosing
    have unclosed : expect s after ']' = fail s after (Fault.expected ']').reason := by
      refine if_neg fun closing => ?_
      obtain ⟨behind, same⟩ := (afterPlace.peek_eq_some_iff (by decide)).mp closing
      exact noClosing _ same
    rw [unclosed]
    exact .fault afterPlace

/-- A field is scanned as it is read, and anything else is the same fault. -/
theorem field_follows {c : Char} (place : At s position (c :: text)) (fault : Fault) :
    Follows s (Same s)
      (if isNameStart (lead c) then do
        let (name, after) ← scanName s position
        return (Segment.field name, after)
      else fail s position fault.reason)
      (if isNameStart c then .ok (.field (name (c :: text)), afterName (c :: text))
      else .error ⟨c :: text, fault⟩) := by
  -- Whether a name starts is told from the first byte.
  rw [isUniform_isNameStart.lead c]
  split
  · obtain ⟨stop, named, stopPlace⟩ := scanName_eq place
    apply Follows.of_found named
    exact .found ⟨rfl, stopPlace⟩
  · exact .fault place

/-- The step behind a dot is scanned as it is read. -/
theorem scanDotted_follows (place : At s position text) :
    Follows s (Same s) (scanDotted s position) (readDotted text) := by
  -- Behind a dot comes a star or a name.
  unfold readDotted
  split
  · rw [scanDotted, place.peek_ascii (by decide)]
    exact (At.advance ['*'] place rfl).found _
  · rename_i c rest noStar
    rw [scanDotted, place.peek_cons]
    split
    · rename_i star
      exact (noStar ((lead_eq_iff (by decide)).mp (Option.some_inj.mp star))).elim
    · rename_i same
      rw [← Option.some_inj.mp same]
      exact field_follows place .noFieldAfterDot
    · contradiction
  · rw [scanDotted, place.peek_nil]
    exact .fault place

/-- The first step of a stage is scanned as it is read. -/
theorem scanStart_follows (place : At s position text) :
    Follows s (Same s) (scanStart s position) (readStart text) := by
  -- A stage starts with a bracket or with a name.
  unfold readStart
  split
  · rw [scanStart, place.peek_ascii (by decide)]
    exact scanBracket_follows place
  · rename_i c rest noBracket
    rw [scanStart, place.peek_cons]
    split
    · rename_i bracket
      exact (noBracket ((lead_eq_iff (by decide)).mp (Option.some_inj.mp bracket))).elim
    · rename_i same
      rw [← Option.some_inj.mp same]
      exact field_follows place .noStart
    · contradiction
  · rw [scanStart, place.peek_nil]
    exact .fault place

/-- A step that goes on at a later place is followed by further steps. -/
theorem further_follows (place : At s position text) {scanned : Except Halt (Segment × Nat)}
    {read : Except Stop (Segment × List Char)} {left : List Char}
    (step : Follows s (Same s) scanned read) (within : Within left read)
    (shorter : byteLength left < byteLength text)
    (more : ∀ segment after, read = .ok (segment, after) → ∀ next, At s next after →
      Follows s (Same s) (scanSegments s next) (readSegments after)) :
    Follows s (Same s)
      (do
        let (segment, after) ← scanned
        let ⟨next, _⟩ ← onward s position after
        let (more, rest) ← scanSegments s next
        return (segment :: more, rest))
      (do
        let (segment, after) ← read
        let (more, rest) ← readSegments after
        return (segment :: more, rest)) := by
  -- A fault of the step ends both at once.
  cases step with
  | fault faultPlace => exact .fault faultPlace
  | @found scanned read same =>
    obtain ⟨segment, stop⟩ := scanned
    obtain ⟨_, after⟩ := read
    obtain ⟨rfl, stopPlace⟩ := same
    -- What is left behind the step takes fewer bytes than what was left in front of it.
    have fewer : byteLength after < byteLength text :=
      Nat.lt_of_le_of_lt (byteLength_le_of_suffix within) shorter
    obtain ⟨moved, goesOn⟩ := place.onward stopPlace fewer
    apply Follows.of_found goesOn
    apply (more segment after rfl stop stopPlace).bind
    rintro ⟨segments, last⟩ ⟨_, rest⟩ ⟨rfl, lastPlace⟩
    exact .found ⟨rfl, lastPlace⟩

/-- The steps that follow are scanned as they are read. -/
theorem scanSegments_follows (s : String) (text : List Char) : ∀ position, At s position text →
    Follows s (Same s) (scanSegments s position) (readSegments text) := by
  -- The induction is on the characters that are left, of which each step takes at least one.
  induction counted : text.length using Nat.strongRecOn generalizing text with
  | ind count ih =>
    intro position place
    subst counted
    -- A dot, a bracket and anything else are told apart by one byte.
    by_cases dot : peek s position = some '.'
    · obtain ⟨rest, rfl⟩ := (place.peek_eq_some_iff (by decide)).mp dot
      rw [readSegments_dot, scanSegments, dot]
      apply (At.advance ['.'] place rfl).bind
      intro start startPlace
      apply further_follows place (scanDotted_follows startPlace) (readDotted_within rest)
        (byteLength_lt_cons _ _)
      intro segment after read
      exact ih after.length (Nat.lt_succ_of_lt (readDotted_length read)) after rfl
    · by_cases bracket : peek s position = some '['
      · obtain ⟨rest, rfl⟩ := (place.peek_eq_some_iff (by decide)).mp bracket
        rw [readSegments_bracket, scanSegments, bracket]
        apply further_follows place (scanBracket_follows place) (readBracket_within rest)
          (byteLength_lt_cons _ _)
        intro segment after read
        exact ih after.length (Nat.lt_succ_of_lt (readBracket_length read)) after rfl
      · -- Without a dot or a bracket neither of the two goes on.
        have scanned : scanSegments s position = .ok ([], position) := by
          rw [scanSegments]
          split
          · contradiction
          · contradiction
          · rfl
        have read : readSegments text = .ok ([], text) := by
          rw [readSegments]
          · rintro rest rfl
            exact dot (place.peek_ascii (by decide))
          · rintro rest rfl
            exact bracket (place.peek_ascii (by decide))
        rw [scanned, read]
        exact .found ⟨rfl, place⟩

/-- A stage is scanned as it is read. -/
theorem scanStage_follows (place : At s position text) :
    Follows s (Same s) (scanStage s position) (readStage text) := by
  -- Blanks, the first step, and then as many further steps as there are.
  apply (skipBlanks_reaches place).bind
  intro start startPlace
  apply (scanStart_follows startPlace).bind
  rintro ⟨first, behind⟩ ⟨_, rest⟩ ⟨rfl, behindPlace⟩
  apply (scanSegments_follows s rest behind behindPlace).bind
  rintro ⟨more, after⟩ ⟨_, left⟩ ⟨rfl, afterPlace⟩
  exact .found ⟨rfl, afterPlace⟩

/-- Behind a stage the expression ends, or further stages follow on a bar. -/
theorem behindStage_follows (place : At s position text) (stage : List Segment) {left : Nat}
    {rest : List Char} (leftPlace : At s left (Path.skipBlanks rest)) (within : rest <:+ text)
    (more : ∀ after, Path.skipBlanks rest = '|' :: after → ∀ next, At s next after →
      Follows s Eq (scanStages s next) (readStages after)) :
    Follows s Eq
      (match peek s left with
      | none => return [stage]
      | some '|' => do
        let ⟨next, _⟩ ← onward s position (← advance s left 1)
        return stage :: (← scanStages s next)
      | some c => fail s left s!"unexpected '{c}'")
      (match Path.skipBlanks rest with
      | [] => .ok [stage]
      | '|' :: after => (readStages after).map (stage :: ·)
      | c :: after => .error ⟨c :: after, .unexpected c⟩) := by
  -- What comes behind the blanks decides: the end, a bar, or a character that has no place there.
  have behind := (skipBlanks_suffix rest).trans within
  generalize Path.skipBlanks rest = ahead at leftPlace behind more
  cases ahead with
  | nil =>
    rw [leftPlace.peek_nil]
    exact .found rfl
  | cons c after =>
    by_cases bar : c = '|'
    · subst bar
      rw [leftPlace.peek_ascii (by decide)]
      apply (At.advance ['|'] leftPlace rfl).bind
      intro next nextPlace
      -- The bar alone makes the position move on.
      have fewer : byteLength after < byteLength text :=
        Nat.lt_of_lt_of_le (byteLength_lt_cons '|' after) (byteLength_le_of_suffix behind)
      obtain ⟨moved, goesOn⟩ := place.onward nextPlace fewer
      apply Follows.of_found goesOn
      exact (more after rfl next nextPlace).map (stage :: ·)
    · rw [leftPlace.peek_cons]
      -- Both sides have come to the case of any other character.
      split
      · contradiction
      · rename_i found
        exact absurd ((lead_eq_iff (by decide)).mp (Option.some_inj.mp found)) bar
      · rename_i found
        rw [← Option.some_inj.mp found]
        split
        · contradiction
        · rename_i same
          exact absurd (List.cons.inj same).1 bar
        · rename_i same
          cases same
          show Follows s Eq (fail s left (Fault.unexpected c).reason) _
          exact .fault leftPlace

/-- Stages are scanned as they are read. -/
theorem scanStages_follows (s : String) (text : List Char) : ∀ position, At s position text →
    Follows s Eq (scanStages s position) (readStages text) := by
  -- The induction is on the characters that are left, of which each round takes at least a bar.
  induction counted : text.length using Nat.strongRecOn generalizing text with
  | ind count ih =>
    intro position place
    subst counted
    -- The first stage is scanned as it is read, and leaves an end of the text.
    have follows := scanStage_follows place
    have within := readStage_within text
    rw [scanStages]
    generalize scanStage s position = scanned at follows
    generalize read : readStage text = reading at follows within
    cases follows with
    | fault faultPlace =>
      rw [readStages_of_error read]
      exact .fault faultPlace
    | @found scanned reading same =>
      obtain ⟨stage, stop⟩ := scanned
      obtain ⟨_, rest⟩ := reading
      obtain ⟨rfl, stopPlace⟩ := same
      rw [readStages_of_stage read]
      apply (skipBlanks_reaches stopPlace).bind
      intro left leftPlace
      apply behindStage_follows place stage leftPlace within
      intro after bar
      have behind := (skipBlanks_suffix rest).trans within
      rw [bar] at behind
      exact ih after.length behind.length_le after rfl

/-- Scanning is never halted by its position: it finds the path that the expression denotes, or
reports the fault that the expression has, at an offset between two of its characters. -/
theorem scan_unbroken (expression : String) :
    scan expression = (parse expression).mapError .malformed ∧
      ((∃ path, scan expression = .ok path) ∨
        ∃ error, scan expression = .error (.malformed error) ∧
          error.offset ≤ expression.utf8ByteSize ∧
          (⟨error.offset⟩ : String.Pos.Raw).IsValid expression) := by
  -- The whole expression is behind the first position, so all of it follows the reader.
  have stages := scanStages_follows expression expression.toList 0 (.start expression)
  simp only [scan, parse]
  generalize scanStages expression 0 = scanned at stages
  generalize readStages expression.toList = read at stages
  cases stages with
  | found same =>
    subst same
    exact ⟨rfl, .inl ⟨_, rfl⟩⟩
  | @fault position rest fault place =>
    refine ⟨?_, .inr ⟨⟨expression, position, fault.reason⟩, rfl, ?_, place.isValid⟩⟩
    · -- The offset of the reader is what the characters in front of the rest take.
      rw [place.eq]
      rfl
    · have size := place.size
      show position ≤ expression.utf8ByteSize
      omega

end Provision.Path.Scanner
