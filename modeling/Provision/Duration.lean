/-! Spans of time and instants on a clock are natural numbers of nanoseconds. -/

namespace Provision

namespace Duration

/-- A span of whole milliseconds. -/
def ofMillis (n : Nat) : Nat := n * 1000000

/-- A span of whole seconds. -/
def ofSeconds (n : Nat) : Nat := n * 1000000000

/-- A span of whole minutes. -/
def ofMinutes (n : Nat) : Nat := ofSeconds (n * 60)

/-- The longest span that a 64-bit count of seconds and a rest in nanoseconds can hold. -/
def longest : Nat := ofSeconds 18446744073709551616 - 1

/-- The longest span that a deadline is placed in the future: thirty years of 365 days. -/
def horizon : Nat := ofSeconds (30 * 365 * 24 * 60 * 60)

/-- A span in units of the given length, with every decimal that is not a trailing zero. -/
def inUnits (span unit : Nat) : List Char :=
  let whole := Nat.toDigits 10 (span / unit)
  let padding := (Nat.toDigits 10 unit).length - 1
  let digits := Nat.toDigits 10 (span % unit)
  let decimals := List.replicate (padding - digits.length) '0' ++ digits
  let kept := (decimals.reverse.dropWhile (· == '0')).reverse
  if kept.isEmpty then whole else whole ++ '.' :: kept

/-- A span in the largest of the units s, ms, µs and ns of which it holds at least one. -/
def text (span : Nat) : String :=
  if 1000000000 ≤ span then String.ofList (inUnits span 1000000000) ++ "s"
  else if 1000000 ≤ span then String.ofList (inUnits span 1000000) ++ "ms"
  else if 1000 ≤ span then String.ofList (inUnits span 1000) ++ "µs"
  else toString span ++ "ns"

/-- Whole milliseconds of a span. -/
def millis (span : Nat) : Nat := span / 1000000

end Duration

/-- The instant a span after another, no further away than the horizon. -/
def Instant.after (start span : Nat) : Nat := start + min span Duration.horizon

end Provision
