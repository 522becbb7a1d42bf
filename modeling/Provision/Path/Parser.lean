import Provision.Path
import Provision.Document.Reader

/-! Path expressions are read from left to right over what is left of their characters. -/

namespace Provision.Path

/-- Why a path expression is malformed. -/
inductive Fault where
  | unexpected (c : Char)
  | emptyExpression
  | noStart
  | noFieldAfterDot
  | expected (c : Char)
  | noBracketContent
  | badIndex
  | noFilterField
  | noOperator
  | noLiteral
  | openLiteral
  | badLiteral
deriving DecidableEq

/-- The first byte of a character's encoding. -/
def leadByte (c : Char) : Nat :=
  let n := c.toNat
  if n < 0x80 then n
  else if n < 0x800 then 0xC0 + n / 0x40
  else if n < 0x10000 then 0xE0 + n / 0x1000
  else 0xF0 + n / 0x40000

/-- The text of a fault; an unexpected character shows as the code point of its first byte. -/
def Fault.reason : Fault → String
  | unexpected c => s!"unexpected '{Char.ofNat (leadByte c)}'"
  | emptyExpression => "empty expression"
  | noStart => "expected field name or '['"
  | noFieldAfterDot => "expected field name after '.'"
  | expected c => s!"expected '{c}'"
  | noBracketContent => "expected index, '*' or '?' filter"
  | badIndex => "invalid index"
  | noFilterField => "expected field name in filter"
  | noOperator => "expected '==' or '!='"
  | noLiteral => "expected quoted literal"
  | openLiteral => "unterminated literal"
  | badLiteral => "invalid JSON literal"

/-- A fault in front of the characters that are left. -/
structure Stop where
  rest : List Char
  fault : Fault

/-- Space, tab, line feed, form feed and carriage return. -/
def isBlank (c : Char) : Bool := c == ' ' || c == '\t' || c == '\n' || c == '\x0c' || c == '\r'

/-- Letters and underscores start a name. -/
def isNameStart (c : Char) : Bool := c.isAlpha || c == '_'

/-- Letters, digits, underscores and hyphens continue a name. -/
def isNameChar (c : Char) : Bool := c.isAlphanum || c == '_' || c == '-'

/-- The characters of the name at the start of a text. -/
def name (text : List Char) : String := String.ofList (text.takeWhile isNameChar)

/-- The characters after the name at the start of a text. -/
def afterName (text : List Char) : List Char := text.dropWhile isNameChar

/-- The characters after leading blanks. -/
def skipBlanks (text : List Char) : List Char := text.dropWhile isBlank

/-- Whether a minus sign comes first, and the characters after it. -/
def splitMinus : List Char → Bool × List Char
  | '-' :: rest => (true, rest)
  | rest => (false, rest)

/-- The integer of digits behind an optional minus sign, if 64 bits hold it. -/
def indexOf? (negative : Bool) (digits : List Char) : Option Int :=
  let value : Int := if negative then -(Numeral.natOf digits : Int) else Numeral.natOf digits
  if digits.isEmpty ∨ value < -9223372036854775808 ∨ 9223372036854775808 ≤ value then none
  else some value

/-- An integer of 64 bits with an optional minus sign. -/
def readIndex (text : List Char) : Except Stop (Int × List Char) :=
  let (negative, digits) := splitMinus text
  let rest := digits.dropWhile Char.isDigit
  match indexOf? negative (digits.takeWhile Char.isDigit) with
  | some value => .ok (value, rest)
  | none => .error ⟨rest, .badIndex⟩

/-- The characters up to a closing quote, and those behind it. -/
def readQuoted (quote : Char) (text : List Char) : Except Stop (String × List Char) :=
  match text.dropWhile (· != quote) with
  | [] => .error ⟨[], .openLiteral⟩
  | _ :: rest => .ok (String.ofList (text.takeWhile (· != quote)), rest)

/-- Raw text in single quotes, or JSON text in backquotes. -/
def readLiteral (text : List Char) : Except Stop (Document × List Char) :=
  match text with
  | '\'' :: rest => do
    let (raw, after) ← readQuoted '\'' rest
    return (.string raw, after)
  | '\x60' :: rest => do
    let (raw, after) ← readQuoted '\x60' rest
    match Document.parse? raw with
    | some literal => return (literal, after)
    | none => .error ⟨after, .badLiteral⟩
  | rest => .error ⟨rest, .noLiteral⟩

/-- A comparison, true when it is for difference. -/
def readOperator (text : List Char) : Except Stop (Bool × List Char) :=
  match text with
  | '=' :: '=' :: rest => .ok (false, rest)
  | '!' :: '=' :: rest => .ok (true, rest)
  | rest => .error ⟨rest, .noOperator⟩

/-- A field, a comparison and a literal, with blanks between and behind them. -/
def readFilterAt (start : List Char) : Except Stop (Segment × List Char) :=
  if start.head?.any isNameStart then do
    let (negated, afterOperator) ← readOperator (skipBlanks (afterName start))
    let (literal, afterLiteral) ← readLiteral (skipBlanks afterOperator)
    return (.filter (name start) negated literal, skipBlanks afterLiteral)
  else .error ⟨start, .noFilterField⟩

/-- What stands between brackets. -/
def readBracketContent (text : List Char) : Except Stop (Segment × List Char) :=
  match text with
  | '*' :: rest => .ok (.wildcard, rest)
  | '?' :: rest => readFilterAt (skipBlanks rest)
  | c :: rest =>
    if c == '-' || c.isDigit then do
      let (value, after) ← readIndex (c :: rest)
      return (.index value, after)
    else .error ⟨c :: rest, .noBracketContent⟩
  | [] => .error ⟨[], .noBracketContent⟩

/-- The rest of a bracket behind its opening. -/
def readBracket (text : List Char) : Except Stop (Segment × List Char) := do
  let (segment, rest) ← readBracketContent text
  match rest with
  | ']' :: after => return (segment, after)
  | _ => .error ⟨rest, .expected ']'⟩

/-- The step behind a dot. -/
def readDotted (text : List Char) : Except Stop (Segment × List Char) :=
  match text with
  | '*' :: rest => .ok (.wildcard, rest)
  | c :: rest =>
    if isNameStart c then .ok (.field (name (c :: rest)), afterName (c :: rest))
    else .error ⟨c :: rest, .noFieldAfterDot⟩
  | [] => .error ⟨[], .noFieldAfterDot⟩

/-- What is left after reading, or in front of a fault, is an end of the text. -/
def Within (text : List Char) : Except Stop (α × List Char) → Prop
  | .ok (_, rest) => rest <:+ text
  | .error stop => stop.rest <:+ text

/-- What is within an end of a text is within the text. -/
theorem Within.mono {text rest : List Char} {reading : Except Stop (α × List Char)}
    (within : Within rest reading) (suffix : rest <:+ text) : Within text reading := by
  cases reading with
  | error stop => exact List.IsSuffix.trans within suffix
  | ok found => exact List.IsSuffix.trans within suffix

/-- Reading in two steps stays within the text when each step does. -/
theorem Within.bind {text : List Char} {reading : Except Stop (α × List Char)}
    {next : α × List Char → Except Stop (β × List Char)} (within : Within text reading)
    (onward : ∀ found rest, Within rest (next (found, rest))) : Within text (reading >>= next) := by
  -- A fault of the first step is passed on, and the second step starts where the first one ended.
  cases reading with
  | error stop => exact within
  | ok found => exact (onward found.1 found.2).mono within

/-- Skipping blanks leaves an end of the text. -/
theorem skipBlanks_suffix (text : List Char) : skipBlanks text <:+ text := List.dropWhile_suffix _

/-- What follows a name is an end of the text. -/
theorem afterName_suffix (text : List Char) : afterName text <:+ text := List.dropWhile_suffix _

/-- What follows an optional minus sign is an end of the text. -/
theorem splitMinus_suffix (text : List Char) : (splitMinus text).2 <:+ text := by
  unfold splitMinus
  split
  · exact List.suffix_cons _ _
  · exact List.suffix_refl _

/-- An index is read within the text, and also its fault lies there. -/
theorem readIndex_within (text : List Char) : Within text (readIndex text) := by
  -- Both outcomes leave the characters behind the run of digits.
  unfold readIndex
  dsimp only
  split
  all_goals exact (List.dropWhile_suffix _).trans (splitMinus_suffix _)

/-- A quoted run is read within the text. -/
theorem readQuoted_within (quote : Char) (text : List Char) :
    Within text (readQuoted quote text) := by
  -- The closing quote is the first character left over when the run is dropped.
  unfold readQuoted
  split
  · exact List.nil_suffix
  · rename_i dropped
    have suffix := List.dropWhile_suffix (· != quote) (l := text)
    rw [dropped] at suffix
    exact (List.suffix_cons _ _).trans suffix

/-- A literal is read within the text. -/
theorem readLiteral_within (text : List Char) : Within text (readLiteral text) := by
  -- The two kinds of quotes differ only in what becomes of the characters between them.
  unfold readLiteral
  split
  · refine ((readQuoted_within _ _).bind fun raw rest => ?_).mono (List.suffix_cons _ _)
    exact List.suffix_refl _
  · refine ((readQuoted_within _ _).bind fun raw rest => ?_).mono (List.suffix_cons _ _)
    -- A literal that is no JSON text is a fault behind its closing quote.
    dsimp only
    split
    all_goals exact List.suffix_refl _
  · exact List.suffix_refl _

/-- A comparison is read within the text. -/
theorem readOperator_within (text : List Char) : Within text (readOperator text) := by
  unfold readOperator
  split
  · exact (List.suffix_cons _ _).trans (List.suffix_cons _ _)
  · exact (List.suffix_cons _ _).trans (List.suffix_cons _ _)
  · exact List.suffix_refl _

/-- A filter is read within the text that starts with its field. -/
theorem readFilterAt_within (start : List Char) : Within start (readFilterAt start) := by
  -- Name, comparison and literal follow one another with blanks between them.
  unfold readFilterAt
  split
  · refine ((readOperator_within _).bind fun negated rest => ?_).mono
      ((skipBlanks_suffix _).trans (afterName_suffix _))
    refine ((readLiteral_within _).bind fun literal rest => ?_).mono (skipBlanks_suffix _)
    exact skipBlanks_suffix _
  · exact List.suffix_refl _

/-- The content of a bracket is read within the text. -/
theorem readBracketContent_within (text : List Char) : Within text (readBracketContent text) := by
  -- Each kind of content starts with the first character of the text.
  unfold readBracketContent
  split
  · exact List.suffix_cons _ _
  · exact (readFilterAt_within _).mono ((skipBlanks_suffix _).trans (List.suffix_cons _ _))
  · split
    · exact (readIndex_within _).bind fun value rest => List.suffix_refl _
    · exact List.suffix_refl _
  · exact List.suffix_refl _

/-- A bracket is read within the text behind its opening. -/
theorem readBracket_within (text : List Char) : Within text (readBracket text) := by
  -- Only the closing bracket can follow the content.
  refine (readBracketContent_within text).bind fun segment rest => ?_
  dsimp only
  split
  · exact List.suffix_cons _ _
  · exact List.suffix_refl _

/-- A step behind a dot is read within the text. -/
theorem readDotted_within (text : List Char) : Within text (readDotted text) := by
  unfold readDotted
  split
  · exact List.suffix_cons _ _
  · split
    · exact afterName_suffix _
    · exact List.suffix_refl _
  · exact List.suffix_refl _

/-- A bracket takes at least the character that closes it. -/
theorem readBracket_length {text rest : List Char} {segment : Segment}
    (read : readBracket text = .ok (segment, rest)) : rest.length < text.length := by
  -- The content is an end of the text, and the closing bracket comes after it.
  have within := readBracketContent_within text
  unfold readBracket at read
  cases content : readBracketContent text with
  | error stop => rw [content] at read; cases read
  | ok found =>
    rw [content] at read within
    dsimp only [Bind.bind, Except.bind] at read
    split at read
    · rename_i closed
      cases read
      have shorter := List.IsSuffix.length_le within
      rw [closed, List.length_cons] at shorter
      exact shorter
    · cases read

/-- A name takes at least the character that starts it. -/
theorem afterName_length {c : Char} (rest : List Char) (start : isNameStart c = true) :
    (afterName (c :: rest)).length ≤ rest.length := by
  -- A character that starts a name also continues one, so it is dropped.
  have continues : isNameChar c = true := by
    simp only [isNameStart, Bool.or_eq_true] at start
    simp only [isNameChar, Char.isAlphanum, Bool.or_eq_true]
    exact start.elim (fun h => .inl (.inl (.inl h))) (fun h => .inl (.inr h))
  simp only [afterName, List.dropWhile_cons, continues, if_true]
  exact (List.dropWhile_suffix _).length_le

/-- A step behind a dot takes at least one character. -/
theorem readDotted_length {text rest : List Char} {segment : Segment}
    (read : readDotted text = .ok (segment, rest)) : rest.length < text.length := by
  -- A star is one character, and a name has at least one.
  unfold readDotted at read
  split at read
  · cases read
    simp
  · split at read
    · rename_i start
      cases read
      exact Nat.lt_of_le_of_lt (afterName_length _ start) (by simp)
    · cases read
  · cases read

/-- The steps that follow directly on what has been read. -/
def readSegments (text : List Char) : Except Stop (List Segment × List Char) :=
  match text with
  | '.' :: rest =>
    match read : readDotted rest with
    | .error stop => .error stop
    | .ok (segment, after) =>
      have := readDotted_length read
      (readSegments after).map fun (more, rest) => (segment :: more, rest)
  | '[' :: rest =>
    match read : readBracket rest with
    | .error stop => .error stop
    | .ok (segment, after) =>
      have := readBracket_length read
      (readSegments after).map fun (more, rest) => (segment :: more, rest)
  | rest => .ok ([], rest)
termination_by text.length
decreasing_by all_goals simp only [List.length_cons]; omega

/-- The first step of a stage, a bracket or a bare name. -/
def readStart (text : List Char) : Except Stop (Segment × List Char) :=
  match text with
  | '[' :: rest => readBracket rest
  | c :: rest =>
    if isNameStart c then .ok (.field (name (c :: rest)), afterName (c :: rest))
    else .error ⟨c :: rest, .noStart⟩
  | [] => .error ⟨[], .emptyExpression⟩

/-- A stage with the blanks in front of it. -/
def readStage (text : List Char) : Except Stop (List Segment × List Char) := do
  let (first, rest) ← readStart (skipBlanks text)
  let (more, after) ← readSegments rest
  return (first :: more, after)

/-- The first step of a stage is read within the text. -/
theorem readStart_within (text : List Char) : Within text (readStart text) := by
  unfold readStart
  split
  · exact (readBracket_within _).mono (List.suffix_cons _ _)
  · split
    · exact afterName_suffix _
    · exact List.suffix_refl _
  · exact List.suffix_refl _

/-- Changing what has been found does not change where reading ended. -/
theorem Within.map {text : List Char} {reading : Except Stop (α × List Char)} {f : α → β}
    (within : Within text reading) :
    Within text (reading.map fun (found, rest) => (f found, rest)) := by
  cases reading with
  | error stop => exact within
  | ok found => exact within

/-- The steps that follow are read within the text. -/
theorem readSegments_within (text : List Char) : Within text (readSegments text) := by
  -- Every step starts behind its first character and ends at an end of what it started from.
  fun_induction readSegments text with
  | case1 rest stop read =>
    have within := readDotted_within rest
    rw [read] at within
    exact within.trans (List.suffix_cons _ _)
  | case2 rest segment after read _ ih =>
    have within := readDotted_within rest
    rw [read] at within
    exact ih.map.mono (within.trans (List.suffix_cons _ _))
  | case3 rest stop read =>
    have within := readBracket_within rest
    rw [read] at within
    exact within.trans (List.suffix_cons _ _)
  | case4 rest segment after read _ ih =>
    have within := readBracket_within rest
    rw [read] at within
    exact ih.map.mono (within.trans (List.suffix_cons _ _))
  | case5 rest => exact List.suffix_refl _

/-- A stage is read within the text. -/
theorem readStage_within (text : List Char) : Within text (readStage text) := by
  refine ((readStart_within _).bind fun first rest => ?_).mono (skipBlanks_suffix _)
  exact (readSegments_within _).bind fun more after => List.suffix_refl _

/-- A stage leaves no more characters than there were. -/
theorem readStage_length {text rest : List Char} {stage : List Segment}
    (read : readStage text = .ok (stage, rest)) : rest.length ≤ text.length := by
  have within := readStage_within text
  rw [read] at within
  exact List.IsSuffix.length_le within

/-- Stages with bars between them, up to the end. -/
def readStages (text : List Char) : Except Stop (List (List Segment)) :=
  match read : readStage text with
  | .error stop => .error stop
  | .ok (stage, rest) =>
    match left : skipBlanks rest with
    | [] => .ok [stage]
    | '|' :: after =>
      have shorter : after.length < text.length := by
        have blanks := (skipBlanks_suffix rest).length_le
        rw [left, List.length_cons] at blanks
        have stage := readStage_length read
        omega
      (readStages after).map (stage :: ·)
    | c :: after => .error ⟨c :: after, .unexpected c⟩
termination_by text.length

/-- How many bytes characters take. -/
def byteLength : List Char → Nat
  | [] => 0
  | c :: rest => c.utf8Size + byteLength rest

/-- The path that an expression denotes, or the offset of its first fault. -/
def parse (expression : String) : Except Error Path :=
  let text := expression.toList
  match readStages text with
  | .ok stages => .ok ⟨expression, stages⟩
  | .error stop =>
    .error ⟨expression, byteLength text - byteLength stop.rest, stop.fault.reason⟩

end Provision.Path
