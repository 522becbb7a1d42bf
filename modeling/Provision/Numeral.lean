import Provision.Binary64

/-! Decimal numerals keep their written digits until a reader decides what number they stand for. -/

namespace Provision

/-- A numeral as written: a sign, digits on both sides of the point and a power of ten. -/
structure Numeral where
  negative : Bool
  whole : List Char
  /-- The digits after the point, if there is one. -/
  fraction : Option (List Char)
  exponent : Option Int
deriving DecidableEq

namespace Numeral

/-- The value of a decimal digit. -/
def digitValue (c : Char) : Nat := c.toNat - '0'.toNat

/-- The number that digits spell. -/
def natOf (digits : List Char) : Nat := digits.foldl (fun n c => n * 10 + digitValue c) 0

/-- The double nearest to digits times a power of ten. -/
def nearest (negative : Bool) (significand : Nat) (power : Int) : Binary64 :=
  -- Far outside the range of doubles the power itself need not be computed.
  if significand = 0 then Binary64.zero negative
  else if 400 < power then Binary64.infinity negative
  else if power + (significand.log2 : Int) < -1500 then Binary64.zero negative
  else Binary64.ofRatio negative (significand * tenTo power.toNat) (tenTo (-power).toNat)

/-- The double nearest to a numeral. -/
def toNearest (n : Numeral) : Binary64 :=
  let fraction := n.fraction.getD []
  nearest n.negative (natOf (n.whole ++ fraction)) (n.exponent.getD 0 - fraction.length)

/-- Further digits are taken as long as the number fits 64 bits; the rest is left over. -/
def absorb (n : Nat) : List Char → Nat × List Char
  | [] => (n, [])
  | c :: rest =>
    let next := n * 10 + digitValue c
    if next < 18446744073709551616 then absorb next rest else (n, c :: rest)

/-- A double times a power of ten, in steps of at most 308 places, each of them rounded. -/
def scaleBy (x : Binary64) (power : Int) : Option Binary64 :=
  -- Up to here powers of ten are in the range of doubles.
  if power.natAbs ≤ 308 then
    if 0 ≤ power then
      let y := x.mul (Binary64.powerOfTen power.natAbs)
      if y.isFinite then some y else none
    else some (x.div (Binary64.powerOfTen power.natAbs))
  else if x.isZero then some x
  else if 0 ≤ power then none
  else scaleBy (x.div (Binary64.powerOfTen 308)) (power + 308)
termination_by power.natAbs
decreasing_by omega

/-- The significand that fits 64 bits and the power of ten that goes with it. -/
def reduced (n : Numeral) : Nat × Int :=
  let (whole, extra) := absorb 0 n.whole
  let fraction := n.fraction.getD []
  let (significand, unused) := absorb whole fraction
  -- Digits left over in front of the point raise the power, and those used behind it lower it.
  (significand, n.exponent.getD 0 + extra.length - (fraction.length - unused.length : Nat))

/-- The double of a numeral in a document; none when it is out of range. -/
def toScaled (n : Numeral) : Option Binary64 :=
  let (significand, power) := n.reduced
  (scaleBy (Binary64.ofRatio false significand 1) power).map fun x =>
    if n.negative then x.negate else x

/-- Whether a numeral is a plain run of digits with an optional sign. -/
def isWhole (n : Numeral) : Bool := n.fraction.isNone && n.exponent.isNone

/-- An optional sign and the digits after it. -/
def readExponent (text : List Char) : Option (Int × List Char) :=
  let (negative, digits) := match text with
    | '-' :: rest => (true, rest)
    | '+' :: rest => (false, rest)
    | rest => (false, rest)
  let run := digits.takeWhile Char.isDigit
  if run.isEmpty then none
  else
    let magnitude : Int := natOf run
    some (if negative then -magnitude else magnitude, digits.dropWhile Char.isDigit)

/-- A fraction and an exponent, both optional, and the text after them. -/
def readTail (text : List Char) : Option (Option (List Char) × Option Int × List Char) :=
  let pointed := match text with
    | '.' :: rest =>
      let run := rest.takeWhile Char.isDigit
      if run.isEmpty then none else some (some run, rest.dropWhile Char.isDigit)
    | rest => some (none, rest)
  pointed.bind fun (fraction, rest) =>
    match rest with
    | 'e' :: more => (readExponent more).map fun (e, rest) => (fraction, some e, rest)
    | 'E' :: more => (readExponent more).map fun (e, rest) => (fraction, some e, rest)
    | rest => some (fraction, none, rest)

/-- The longest numeral at the start of a text, without leading zeros, and the text after it. -/
def read (text : List Char) : Option (Numeral × List Char) :=
  let (negative, unsigned) := match text with
    | '-' :: rest => (true, rest)
    | rest => (false, rest)
  let run := unsigned.takeWhile Char.isDigit
  -- A zero stands alone in front of the point.
  let whole := if run.head? = some '0' then ['0'] else run
  if whole.isEmpty then none
  else
    (readTail (unsigned.drop whole.length)).map fun (fraction, exponent, rest) =>
      ({ negative, whole, fraction, exponent }, rest)

end Numeral

/-- The number that an unsigned decimal spells, with an
optional plus sign, if it is below a limit. -/
def unsignedBelow (limit : Nat) (text : String) : Option Nat :=
  let digits := match text.toList with
    | '+' :: rest => rest
    | rest => rest
  if digits.isEmpty || !digits.all Char.isDigit then none
  else
    let n := Numeral.natOf digits
    if n < limit then some n else none

end Provision
