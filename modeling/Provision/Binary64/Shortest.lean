import Provision.Binary64

/-! The text of a double has the fewest digits that read back as the same double. -/

namespace Provision

namespace Binary64

/-- How many decimal digits a number has; zero has one. -/
def digitCount (n : Nat) : Nat := (Nat.toDigits 10 n).length

/-- The power of ten of the leading digit of a positive ratio. -/
def leadingPower (num den : Nat) : Int :=
  if den ≤ num then (digitCount (num / den) : Int) - 1
  else
    -- The inverse has this many whole digits, so the ratio is at most one place further down.
    let places := digitCount (den / num)
    if den ≤ num * tenTo (places - 1) then 1 - (places : Int) else -(places : Int)

/-- The reals that round to a positive double, as two numerators over one denominator. -/
structure Interval where
  low : Nat
  value : Nat
  high : Nat
  den : Nat
  /-- Both ends round to the double when its significand is even. -/
  closed : Bool

/-- The interval of a finite positive double. -/
def interval (x : Binary64) : Interval :=
  let m := x.significand
  -- The neighbour below a power of two is half as far away as the one above.
  let below := if m = 4503599627370496 ∧ 1 < x.scale then 1 else 2
  let up := 1 <<< (x.scale - 1075)
  let down := 4 <<< (1075 - x.scale)
  { low := (4 * m - below) * up
    value := 4 * m * up
    high := (4 * m + 2) * up
    den := down
    closed := m % 2 = 0 }

/-- Whether a decimal with the given power of ten lies in the interval. -/
def Interval.holds (i : Interval) (digits : Nat) (power : Int) : Bool :=
  let scaled := digits * tenTo power.toNat * i.den
  let grid := tenTo (-power).toNat
  if i.closed then i.low * grid ≤ scaled && scaled ≤ i.high * grid
  else i.low * grid < scaled && scaled < i.high * grid

/-- The two neighbours of the value on a decimal grid, the nearer one first. -/
def Interval.neighbours (i : Interval) (power : Int) : Nat × Nat :=
  let top := i.value * tenTo (-power).toNat
  let bottom := i.den * tenTo power.toNat
  let low := top / bottom
  if divNearest top bottom = low then (low, low + 1) else (low + 1, low)

/-- The coarsest decimal of at most `more` further digits that
reads back, from `count` digits on. -/
def Interval.search (i : Interval) (leading : Int) : (more count : Nat) → Nat × Int
  | 0, count =>
    let power := leading + 1 - (count : Int)
    ((i.neighbours power).1, power)
  | more + 1, count =>
    let power := leading + 1 - (count : Int)
    let (near, far) := i.neighbours power
    if i.holds near power then (near, power)
    else if i.holds far power then (far, power)
    else i.search leading more (count + 1)

/-- The shortest decimal that reads back as a finite double other
than zero: digits and a power of ten. -/
def shortest (x : Binary64) : Nat × Int :=
  let (num, den) := x.magnitude
  x.interval.search (leadingPower num den) 16 1

/-- Trailing zeros of a positive number moved into the power of ten. -/
def strip : (fuel : Nat) → Nat → Int → Nat × Int
  | 0, digits, power => (digits, power)
  | fuel + 1, digits, power =>
    if digits % 10 = 0 then strip fuel (digits / 10) (power + 1) else (digits, power)

/-- Digits with a point after the given number of them, and a zero where a side would be empty. -/
def positional (digits : List Char) (power : Int) : List Char :=
  if 0 ≤ power then digits ++ List.replicate power.toNat '0' ++ ['.', '0']
  else
    let places := (-power).toNat
    -- Leading zeros make sure that one digit stands before the point.
    let padded := List.replicate (places + 1 - digits.length) '0' ++ digits
    padded.take (padded.length - places) ++ '.' :: padded.drop (padded.length - places)

/-- One digit, a point if more follow, and the power of ten with its sign. -/
def scientific (digits : List Char) (power : Int) : List Char :=
  let exponent := power + digits.length - 1
  let tail := match digits.drop 1 with
    | [] => []
    | more => '.' :: more
  let sign := if exponent < 0 then '-' else '+'
  digits.take 1 ++ tail ++ 'e' :: sign :: Nat.toDigits 10 exponent.natAbs

/-- Positional from 0.00001 up to, not including, 10 to the 16; scientific outside. -/
def text (x : Binary64) : String :=
  let sign := if x.negative then ['-'] else []
  let body :=
    if x.isNaN then ['N', 'a', 'N']
    else if !x.isFinite then sign ++ ['i', 'n', 'f']
    else if x.isZero then sign ++ ['0', '.', '0']
    else
      let (shortDigits, shortPower) := x.shortest
      let (stripped, power) := strip 17 shortDigits shortPower
      let digits := Nat.toDigits 10 stripped
      let leading := power + digits.length - 1
      sign ++
        if -5 ≤ leading ∧ leading < 16 then positional digits power else scientific digits power
  String.ofList body

end Binary64

end Provision
