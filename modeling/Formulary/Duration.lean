import Formulary.Text.Decimal

/-!
# Durations

A duration is a whole number of nanoseconds. It is written in the greatest of four units that it
reaches, with as many decimals as it needs (`1.5s`, `250ms`).

`Formulary.Duration.Read` reads durations.
-/

namespace Formulary

/-- A span of time, in nanoseconds. -/
abbrev Duration := Nat

namespace Duration

/-- The duration of a number of microseconds. -/
def micros (n : Nat) : Duration := n * 1000

/-- The duration of a number of milliseconds. -/
def millis (n : Nat) : Duration := n * 1000000

/-- The duration of a number of seconds. -/
def secs (n : Nat) : Duration := n * 1000000000

/-- The whole seconds of a duration. -/
def wholeSecs (d : Duration) : Nat := d / secs 1

/-- The nanoseconds of a duration beyond its whole seconds. -/
def subsecNanos (d : Duration) : Nat := d % secs 1

/-- A duration in a unit with the given number of decimals, zeros at the end left out. -/
def inUnit (d : Duration) (unit : Duration) (decimals : Nat) (name : String) : String :=
  let digits := Nat.toDigits 10 (d % unit)
  let padded := List.replicate (decimals - digits.length) '0' ++ digits
  let kept := (padded.reverse.dropWhile (· = '0')).reverse
  let fraction := if d % unit = 0 then "" else "." ++ String.ofList kept
  toString (d / unit) ++ fraction ++ name

/-- A duration in the greatest unit that it reaches. -/
def toText (d : Duration) : String :=
  if secs 1 ≤ d then d.inUnit (secs 1) 9 "s"
  else if millis 1 ≤ d then d.inUnit (millis 1) 6 "ms"
  else if micros 1 ≤ d then d.inUnit (micros 1) 3 "µs"
  else d.inUnit 1 0 "ns"

end Duration

end Formulary
