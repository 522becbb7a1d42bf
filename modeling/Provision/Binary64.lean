/-! Doubles are exact data here: a sign, an exponent and a
fraction, rounded in natural-number arithmetic. -/

namespace Provision

/-- Ten to a power. -/
def tenTo (n : Nat) : Nat := Nat.pow 10 n

/-- A double: a sign, a biased exponent of 11 bits and a fraction of 52 bits. -/
structure Binary64 where
  negative : Bool
  exponent : Fin 2048
  fraction : Fin 4503599627370496
deriving DecidableEq

namespace Binary64

/-- The zero of a sign. -/
def zero (negative : Bool) : Binary64 := ⟨negative, 0, 0⟩

/-- The infinity of a sign. -/
def infinity (negative : Bool) : Binary64 := ⟨negative, 2047, 0⟩

/-- The quiet number that is no number. -/
def nan : Binary64 := ⟨false, 2047, 2251799813685248⟩

/-- Every exponent but the largest stands for a number. -/
def isFinite (x : Binary64) : Bool := x.exponent.val != 2047

/-- The largest exponent with a fraction stands for no number. -/
def isNaN (x : Binary64) : Bool := x.exponent.val == 2047 && x.fraction.val != 0

/-- Both zeros count as zero. -/
def isZero (x : Binary64) : Bool := x.exponent.val == 0 && x.fraction.val == 0

/-- The same number with the other sign. -/
def negate (x : Binary64) : Binary64 := { x with negative := !x.negative }

/-- Numeric equality: the two zeros agree, and what is no number agrees with nothing. -/
def agrees (x y : Binary64) : Bool :=
  !x.isNaN && !y.isNaN && (x == y || (x.isZero && y.isZero))

/-- The whole number in front of the power of two, with the hidden bit of a normal double. -/
def significand (x : Binary64) : Nat :=
  if x.exponent.val = 0 then x.fraction.val else 4503599627370496 + x.fraction.val

/-- The magnitude of a finite double is its significand times two to its scale minus 1075. -/
def scale (x : Binary64) : Nat := max 1 x.exponent.val

/-- The magnitude of a finite double as a numerator and a denominator. -/
def magnitude (x : Binary64) : Nat × Nat :=
  (x.significand <<< (x.scale - 1075), 1 <<< (1075 - x.scale))

/-- Division rounded to the nearest whole number, a half going to the even neighbour. -/
def divNearest (num den : Nat) : Nat :=
  let low := num / den
  let twice := 2 * (num % den)
  if twice < den then low
  else if den < twice then low + 1
  -- What is left over is exactly one half here.
  else if low % 2 = 0 then low else low + 1

/-- A ratio expressed in units of two to the scale minus 1075. -/
def inUnits (num den scale : Nat) : Nat × Nat :=
  (num <<< (1075 - scale), den <<< (scale - 1075))

/-- The scale at which a positive ratio has 53 binary digits, or the smallest one there is. -/
def fittingScale (num den : Nat) : Nat :=
  -- The logarithms leave one binary digit open, which the comparison decides.
  let guess := num.log2 + 1022 - den.log2
  let low := max 1 guess
  let (top, bottom) := inUnits num den low
  if bottom * 9007199254740992 ≤ top then low + 1 else low

/-- A double from a significand of at most 53 bits and its scale; beyond the range lies infinity. -/
def ofScaled (negative : Bool) (significand scale : Nat) : Binary64 :=
  -- Rounding can carry into a fifty-fourth bit, which is the next power of two.
  let carried := significand = 9007199254740992
  let digits := if carried then 4503599627370496 else significand
  let place := if carried then scale + 1 else scale
  if beyond : 2047 ≤ place then infinity negative
  else if small : digits < 4503599627370496 then ⟨negative, 0, ⟨digits, small⟩⟩
  else
    ⟨negative, ⟨place, by omega⟩,
      ⟨(digits - 4503599627370496) % 4503599627370496, Nat.mod_lt _ (by decide)⟩⟩

/-- The double nearest to a ratio, a half going to the even neighbour. -/
def ofRatio (negative : Bool) (num den : Nat) : Binary64 :=
  if num = 0 then zero negative
  else
    let scale := fittingScale num den
    let (top, bottom) := inUnits num den scale
    ofScaled negative (divNearest top bottom) scale

/-- The double nearest to a whole number. -/
def ofInt (n : Int) : Binary64 := ofRatio (n < 0) n.natAbs 1

/-- The rounded product of two finite doubles. -/
def mul (x y : Binary64) : Binary64 :=
  -- Magnitudes are exact, so only the product is rounded.
  let (a, b) := x.magnitude
  let (c, d) := y.magnitude
  ofRatio (x.negative != y.negative) (a * c) (b * d)

/-- The rounded quotient of two finite doubles, the second not zero. -/
def div (x y : Binary64) : Binary64 :=
  let (a, b) := x.magnitude
  let (c, d) := y.magnitude
  ofRatio (x.negative != y.negative) (a * d) (b * c)

/-- The double nearest to a power of ten. -/
def powerOfTen (n : Nat) : Binary64 := ofRatio false (tenTo n) 1

end Binary64

end Provision
