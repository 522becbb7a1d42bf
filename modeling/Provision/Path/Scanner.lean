import Provision.Path.Parser

/-! Path expressions can also be scanned in place: a position moves over the bytes of the
expression, and names, numbers and literals are cut out between two positions. All that could go
wrong with a position is told apart from what can be wrong with an expression. -/

namespace Provision.Path.Scanner

/-- Why scanning ends early. Only the first of the reasons lies in the expression. -/
inductive Halt where
  | malformed (error : Error)
  /-- The position would move beyond the last byte. -/
  | overrun (position : Nat)
  /-- What is cut out would start or end within a character. -/
  | torn (start stop : Nat)
  /-- A loop would go on forever, as one of its rounds has not moved the position. -/
  | stuck (position : Nat)

/-- The byte at a position as the character of that code, unless the expression ends there. -/
def peek (s : String) (position : Nat) : Option Char := s.toByteArray[position]?.map Char.ofUInt8

/-- The position some bytes further on. -/
def advance (s : String) (position count : Nat) : Except Halt Nat :=
  if position + count ≤ s.utf8ByteSize then .ok (position + count)
  else .error (.overrun (position + count))

/-- What stands between two positions, each of which has to be between two characters. -/
def slice (s : String) (start stop : Nat) : Except Halt String :=
  if whole : (⟨start⟩ : String.Pos.Raw).IsValid s ∧ (⟨stop⟩ : String.Pos.Raw).IsValid s ∧
      start ≤ stop then
    .ok (s.extract (s.pos ⟨start⟩ whole.1) (s.pos ⟨stop⟩ whole.2.1))
  else .error (.torn start stop)

/-- The position at which the next round of a loop starts. -/
def onward (s : String) (position next : Nat) :
    Except Halt { next : Nat // position < next ∧ next ≤ s.utf8ByteSize } :=
  if moved : position < next ∧ next ≤ s.utf8ByteSize then .ok ⟨next, moved⟩
  else .error (.stuck next)

/-- A fault of the expression at a position. -/
def fail (s : String) (position : Nat) (reason : String) : Except Halt α :=
  .error (.malformed ⟨s, position, reason⟩)

/-- The position behind the bytes that pass a test. -/
def skipWhile (s : String) (p : Char → Bool) (position : Nat) : Except Halt Nat :=
  -- A test that also passes bytes within characters may stop within one, where a cut would fail.
  if (peek s position).any p then do
    let ⟨next, _⟩ ← onward s position (← advance s position 1)
    skipWhile s p next
  else .ok position
termination_by s.utf8ByteSize - position
decreasing_by omega

/-- The position behind blanks. -/
def skipBlanks (s : String) (position : Nat) : Except Halt Nat := skipWhile s isBlank position

/-- The position behind a certain character. -/
def expect (s : String) (position : Nat) (c : Char) : Except Halt Nat :=
  if peek s position = some c then advance s position 1
  else fail s position (Fault.expected c).reason

/-- The name that starts at a position. -/
def scanName (s : String) (start : Nat) : Except Halt (String × Nat) := do
  let stop ← skipWhile s isNameChar start
  return (← slice s start stop, stop)

/-- The position behind a minus sign, if there is one. -/
def skipSign (s : String) (position : Nat) : Except Halt Nat :=
  if peek s position = some '-' then advance s position 1 else .ok position

/-- The integer of 64 bits that a text with an optional minus sign stands for. -/
def integer? (text : String) : Option Int :=
  let (negative, digits) := splitMinus text.toList
  indexOf? negative digits

/-- The index that starts at a position. -/
def scanIndex (s : String) (start : Nat) : Except Halt (Int × Nat) := do
  let stop ← skipWhile s Char.isDigit (← skipSign s start)
  match integer? (← slice s start stop) with
  | some value => return (value, stop)
  | none => fail s stop Fault.badIndex.reason

/-- The text that starts behind a quote, up to the next quote of that kind. -/
def scanQuoted (s : String) (quote : Char) (start : Nat) : Except Halt (String × Nat) := do
  -- All kinds of bytes are passed here, also those within characters.
  let stop ← skipWhile s (· != quote) start
  if (peek s stop).isNone then fail s stop Fault.openLiteral.reason
  else
    let raw ← slice s start stop
    return (raw, ← advance s stop 1)

/-- What a text between quotes of a kind stands for. -/
def literal? (quote : Char) (raw : String) : Option Document :=
  if quote = '\'' then some (.string raw) else Document.parse? raw

/-- The literal that starts at a position. -/
def scanLiteral (s : String) (position : Nat) : Except Halt (Document × Nat) :=
  match (peek s position).filter fun c => c == '\'' || c == '\x60' with
  | none => fail s position Fault.noLiteral.reason
  | some quote => do
    let (raw, after) ← scanQuoted s quote (← advance s position 1)
    match literal? quote raw with
    | some literal => return (literal, after)
    | none => fail s after Fault.badLiteral.reason

/-- The comparison at a position, true when it is for difference. -/
def scanOperator (s : String) (position : Nat) : Except Halt (Bool × Nat) :=
  match peek s position, peek s (position + 1) with
  | some '=', some '=' => return (false, ← advance s position 2)
  | some '!', some '=' => return (true, ← advance s position 2)
  | _, _ => fail s position Fault.noOperator.reason

/-- The filter that starts behind a question mark. -/
def scanFilter (s : String) (position : Nat) : Except Halt (Segment × Nat) := do
  let start ← skipBlanks s position
  if (peek s start).any isNameStart then
    let (name, behindName) ← scanName s start
    let (negated, behindOperator) ← scanOperator s (← skipBlanks s behindName)
    let (literal, behindLiteral) ← scanLiteral s (← skipBlanks s behindOperator)
    return (.filter name negated literal, ← skipBlanks s behindLiteral)
  else fail s start Fault.noFilterField.reason

/-- What stands between brackets. -/
def scanContent (s : String) (position : Nat) : Except Halt (Segment × Nat) :=
  match peek s position with
  | some '*' => return (.wildcard, ← advance s position 1)
  | some '?' => do scanFilter s (← advance s position 1)
  | some c =>
    if c == '-' || c.isDigit then do
      let (value, after) ← scanIndex s position
      return (.index value, after)
    else fail s position Fault.noBracketContent.reason
  | none => fail s position Fault.noBracketContent.reason

/-- The bracket that starts at a position. -/
def scanBracket (s : String) (position : Nat) : Except Halt (Segment × Nat) := do
  let (segment, after) ← scanContent s (← expect s position '[')
  return (segment, ← expect s after ']')

/-- The step behind a dot. -/
def scanDotted (s : String) (position : Nat) : Except Halt (Segment × Nat) :=
  match peek s position with
  | some '*' => return (.wildcard, ← advance s position 1)
  | some c =>
    if isNameStart c then do
      let (name, after) ← scanName s position
      return (.field name, after)
    else fail s position Fault.noFieldAfterDot.reason
  | none => fail s position Fault.noFieldAfterDot.reason

/-- The steps that follow directly on what has been scanned. -/
def scanSegments (s : String) (position : Nat) : Except Halt (List Segment × Nat) :=
  match peek s position with
  | some '.' => do
    let (segment, after) ← scanDotted s (← advance s position 1)
    let ⟨next, _⟩ ← onward s position after
    let (more, rest) ← scanSegments s next
    return (segment :: more, rest)
  | some '[' => do
    let (segment, after) ← scanBracket s position
    let ⟨next, _⟩ ← onward s position after
    let (more, rest) ← scanSegments s next
    return (segment :: more, rest)
  | _ => .ok ([], position)
termination_by s.utf8ByteSize - position
decreasing_by all_goals omega

/-- The first step of a stage. -/
def scanStart (s : String) (position : Nat) : Except Halt (Segment × Nat) :=
  match peek s position with
  | some '[' => scanBracket s position
  | some c =>
    if isNameStart c then do
      let (name, after) ← scanName s position
      return (.field name, after)
    else fail s position Fault.noStart.reason
  | none => fail s position Fault.emptyExpression.reason

/-- A stage with the blanks in front of it. -/
def scanStage (s : String) (position : Nat) : Except Halt (List Segment × Nat) := do
  let (first, rest) ← scanStart s (← skipBlanks s position)
  let (more, after) ← scanSegments s rest
  return (first :: more, after)

/-- Stages with bars between them, up to the end. -/
def scanStages (s : String) (position : Nat) : Except Halt (List (List Segment)) := do
  let (stage, rest) ← scanStage s position
  let left ← skipBlanks s rest
  -- Each round passes at least the bar, so the position moves on.
  match peek s left with
  | none => return [stage]
  | some '|' =>
    let ⟨next, _⟩ ← onward s position (← advance s left 1)
    return stage :: (← scanStages s next)
  | some c => fail s left s!"unexpected '{c}'"
termination_by s.utf8ByteSize - position
decreasing_by omega

/-- The path that an expression denotes. -/
def scan (expression : String) : Except Halt Path := do
  return ⟨expression, ← scanStages expression 0⟩

end Provision.Path.Scanner
