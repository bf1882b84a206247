import Formulary.Duration
import Formulary.Text.Blank
import Formulary.Text.Quoted

/-!
# Reading durations

A duration is written as a sum of items, each a number with an optional fraction and a unit: `5s`,
`1h 30m`, `1.5 sec`. Blanks may stand between items, before a unit and even between digits. The
characters are read one by one, each with its offset in bytes, which is what a fault reports.

All numbers are unsigned words of 64 bits and so is the number of seconds; a fraction must come to
a whole number of nanoseconds, or of seconds in a unit of an hour or more.
-/

namespace Formulary.Duration

/-- The unit of an item. -/
inductive Unit
  | nanosecond
  | microsecond
  | millisecond
  | second
  | minute
  | hour
  | day
  | week
  | month
  | year
  deriving DecidableEq

namespace Unit

/-- The unit of a name. Names differ in case: `m` is a minute and `M` a month. -/
def ofName? : String → Option Unit
  | "nanos" | "nsec" | "ns" => some nanosecond
  | "usec" | "us" | "µs" => some microsecond
  | "millis" | "msec" | "ms" => some millisecond
  | "seconds" | "second" | "secs" | "sec" | "s" => some second
  | "minutes" | "minute" | "min" | "mins" | "m" => some minute
  | "hours" | "hour" | "hrs" | "hr" | "h" => some hour
  | "days" | "day" | "d" => some day
  | "weeks" | "week" | "wks" | "wk" | "w" => some week
  | "months" | "month" | "M" => some month
  | "years" | "year" | "yrs" | "yr" | "y" => some year
  | _ => none

/-- How long a unit is. A month is 30.44 days and a year 365.25 days. -/
def length : Unit → Duration
  | nanosecond => 1
  | microsecond => micros 1
  | millisecond => millis 1
  | second => secs 1
  | minute => secs 60
  | hour => secs 3600
  | day => secs 86400
  | week => secs 604800
  | month => secs 2630016
  | year => secs 31557600

/-- What a unit is counted in: units of a second or more in seconds. -/
def grain (unit : Unit) : Duration :=
  if unit.length < secs 1 then 1 else secs 1

/-- What a fraction of a unit has to come to a whole number of. There is none of a nanosecond. -/
def fractionGrain? : Unit → Option Duration
  | nanosecond => none
  | microsecond | millisecond | second | minute => some 1
  | _ => some (secs 1)

end Unit

/-- Why a text is no duration. -/
inductive Fault
  | empty
  | numberExpected (offset : Nat)
  | invalidCharacter (offset : Nat)
  | unitMissing (number : Nat)
  | unknownUnit (name : String)
  | unrepresentable
  /-- The sum fits but for a last second that its parts come to; nobody goes on after that. -/
  | overflow
  deriving DecidableEq

/-- What is said of a text that is no duration. -/
def Fault.message : Fault → String
  | .empty => "value was empty"
  | .numberExpected offset => "expected number at " ++ toString offset
  | .invalidCharacter offset => "invalid character at " ++ toString offset
  | .unitMissing n =>
    "time unit needed, for example " ++ toString n ++ "sec or " ++ toString n ++ "ms"
  | .unknownUnit name =>
    "unknown time unit " ++ Text.quoted name ++ ", supported units: ns, us/µs, ms, sec, min, " ++
      "hours, days, weeks, months, years (and few variations)"
  | .unrepresentable =>
    "number is too large or cannot be represented without a lack of precision " ++
      "(values below 1ns are not supported)"
  | .overflow => "too many seconds"

/-- A number that has to fit an unsigned word. -/
def word (n : Nat) : Except Fault Nat :=
  if n < Nat.pow 2 64 then .ok n else .error .unrepresentable

/-- The digits after a point, as a numerator over a power of ten. -/
structure Fraction where
  numerator : Nat
  denominator : Nat

/-- A number with one more digit. -/
def withDigit (n : Nat) (digit : Char) : Except Fault Nat :=
  word (10 * n + (digit.toNat - '0'.toNat))

/-- A fraction with one more digit. -/
def Fraction.withDigit (f : Fraction) (digit : Char) : Except Fault Fraction := do
  let denominator ← word (10 * f.denominator)
  let numerator ← Duration.withDigit f.numerator digit
  .ok ⟨numerator, denominator⟩

/-- A sum with `count` times a grain added. What is added in nanoseconds has to fit a word together
    with those that the sum has beyond its whole seconds, and the seconds have to fit one. If those
    nanoseconds are just one second, it is found out too late that the seconds do not fit. -/
def plus (total : Duration) (count : Nat) (grain : Duration) : Except Fault Duration := do
  if grain = 1 then
    let _ ← word (total.subsecNanos + count)
  let sum := total + count * grain
  if sum = secs (Nat.pow 2 64) ∧ grain = 1 ∧ total.subsecNanos + count = secs 1 then
    .error .overflow
  else
    let _ ← word sum.wholeSecs
    .ok sum

/-- An item added to a sum. -/
def plusItem (total : Duration) (number : Nat) (fraction : Option Fraction) (unit : Unit) :
    Except Fault Duration := do
  let count ← word (number * (unit.length / unit.grain))
  let total ← plus total count unit.grain
  match fraction with
  | none => .ok total
  | some f =>
    match unit.fractionGrain? with
    | none => .error .unrepresentable
    | some grain => do
      let scaled ← word (f.numerator * (unit.length / grain))
      if scaled % f.denominator = 0 then plus total (scaled / f.denominator) grain
      else .error .unrepresentable

/-- How far reading has come, with the sum of the items before. -/
inductive Progress
  /-- A number is to come, which is looked for from an offset on; there may be no item before. -/
  | between (total : Option Duration) (offset : Nat)
  /-- A number has begun. -/
  | whole (total : Duration) (number : Nat)
  /-- A fraction has begun; the offset is that of its point, or that after its last character. -/
  | fraction (total : Duration) (number : Nat) (digits : Fraction) (offset : Nat)
  /-- A unit has begun. -/
  | unit (total : Duration) (number : Nat) (fraction : Option Fraction) (name : List Char)

/-- The characters that names of units are made of. -/
def isUnitLetter (c : Char) : Bool :=
  c.isAlpha || c = 'µ'

/-- The sum with the item that ends in the unit named. -/
def finishItem (total : Duration) (number : Nat) (fraction : Option Fraction) (name : List Char) :
    Except Fault Duration :=
  match Unit.ofName? (String.ofList name) with
  | some unit => plusItem total number fraction unit
  | none => .error (.unknownUnit (String.ofList name))

/-- Reads the character at an offset. -/
def Progress.step (offset : Nat) (c : Char) : Progress → Except Fault Progress
  | between total start =>
    if c.isDigit then do .ok (whole (total.getD 0) (← withDigit 0 c))
    else if Text.isBlank c then .ok (between total start)
    else .error (.numberExpected start)
  | whole total n =>
    if c.isDigit then do .ok (whole total (← withDigit n c))
    else if Text.isBlank c then .ok (whole total n)
    else if isUnitLetter c then .ok (unit total n none [c])
    else if c = '.' then .ok (fraction total n ⟨0, 1⟩ offset)
    else .error (.invalidCharacter offset)
  | fraction total n f start =>
    if c.isDigit then do .ok (fraction total n (← f.withDigit c) (offset + c.utf8Size))
    else if Text.isBlank c then .ok (fraction total n f (offset + c.utf8Size))
    else if isUnitLetter c then
      if f.denominator = 1 then .error (.invalidCharacter start)
      else .ok (unit total n (some f) [c])
    else .error (.invalidCharacter start)
  | unit total n f name =>
    if c.isDigit then do .ok (whole (← finishItem total n f name) (← withDigit 0 c))
    else if Text.isBlank c then do
      .ok (between (some (← finishItem total n f name)) (offset + c.utf8Size))
    else if isUnitLetter c then .ok (unit total n f (name ++ [c]))
    else .error (.invalidCharacter offset)

/-- The duration that was read when the text ends. -/
def Progress.finish : Progress → Except Fault Duration
  | between none _ => .error .empty
  | between (some total) _ => .ok total
  | whole _ n => .error (.unitMissing n)
  | fraction _ n f start =>
    if f.denominator = 1 then .error (.invalidCharacter start) else .error (.unitMissing n)
  | unit total n f name => finishItem total n f name

/-- Reads the characters from an offset on. -/
def Progress.run (progress : Progress) (offset : Nat) : List Char → Except Fault Duration
  | [] => progress.finish
  | c :: cs => do
    let next ← progress.step offset c
    next.run (offset + c.utf8Size) cs

/-- The duration that a text denotes. Zero needs no unit. -/
def ofText (s : String) : Except Fault Duration :=
  if s = "0" then .ok 0 else Progress.run (.between none 0) 0 s.toList

end Formulary.Duration
