import Provision.Numeral

/-! The text of a double is read back as the nearest double,
and words stand for what has no digits. -/

namespace Provision

namespace Numeral

/-- Whether a minus sign comes first, and the characters after a sign of either kind. -/
def splitSign : List Char → Bool × List Char
  | '-' :: rest => (true, rest)
  | '+' :: rest => (false, rest)
  | rest => (false, rest)

/-- The digits after a point, if there is one, and the characters after them. -/
def splitFraction : List Char → Option (List Char) × List Char
  | '.' :: rest => (some (rest.takeWhile Char.isDigit), rest.dropWhile Char.isDigit)
  | rest => (none, rest)

/-- The exponent that is all there is behind the digits, if there is any. -/
def readLast? : List Char → Option (Option Int)
  | [] => some none
  | mark :: rest =>
    match readExponent rest with
    | some (exponent, []) => if mark = 'e' ∨ mark = 'E' then some (some exponent) else none
    | _ => none

/-- The numeral of a text with at least one digit on either side of an optional point. -/
def ofText? (text : List Char) : Option Numeral :=
  let (negative, unsigned) := splitSign text
  let whole := unsigned.takeWhile Char.isDigit
  let (fraction, rest) := splitFraction (unsigned.dropWhile Char.isDigit)
  if whole.isEmpty ∧ (fraction.getD []).isEmpty then none
  else (readLast? rest).map fun exponent => { negative, whole, fraction, exponent }

end Numeral

namespace Binary64

/-- The double of a word. -/
def ofWord? : String → Option Binary64
  | "NaN" => some nan
  | "inf" => some (infinity false)
  | "-inf" => some (infinity true)
  | _ => none

/-- The double nearest to the number of a text, or the one that a word stands for. -/
def ofText? (text : String) : Option Binary64 :=
  match ofWord? text with
  | some x => some x
  | none => (Numeral.ofText? text.toList).map Numeral.toNearest

end Binary64

end Provision
