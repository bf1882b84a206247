import Formulary.Toml

/-!
# Words of TOML texts

A value that is neither a string nor enclosed in brackets is one word: a truth value, a number or a
time. What a word is depends on the word alone (`scalar?`).
-/

namespace Formulary.Toml

/-! ## Numbers -/

/-- The digits of a group that starts and ends with a digit and has single underscores at most
    between them, without the underscores. -/
def grouped? (isDigit : Char → Bool) : List Char → Option (List Char)
  | [] => none
  | [d] => if isDigit d then some [d] else none
  | d :: '_' :: ds => if isDigit d then (grouped? isDigit ds).map (d :: ·) else none
  | d :: ds => if isDigit d then (grouped? isDigit ds).map (d :: ·) else none

/-- The value of a digit to a base up to sixteen. -/
def digitValue (c : Char) : Nat :=
  if c.isDigit then c.toNat - '0'.toNat else c.toLower.toNat - 'a'.toNat + 10

/-- Whether `c` is a digit to the base. -/
def isDigitOf (base : Nat) (c : Char) : Bool :=
  (c.isDigit || ('a' ≤ c.toLower && c.toLower ≤ 'f')) && digitValue c < base

/-- The number of some digits to a base, if it fits 64 bits with a sign. -/
def based? (base : Nat) (cs : List Char) : Option Int := do
  let ds ← grouped? (isDigitOf base) cs
  let n := ds.foldl (fun n d => base * n + digitValue d) 0
  if n < Nat.pow 2 63 then some n else none

/-- Decimal digits that start with a zero only if they are a zero, without underscores. -/
def whole? (cs : List Char) : Option (List Char) := do
  let ds ← grouped? Char.isDigit cs
  if ds.head? = some '0' ∧ cs.length ≠ 1 then none else some ds

/-- The integer that a word is. -/
def integer? : List Char → Option Int
  | '0' :: 'x' :: cs => based? 16 cs
  | '0' :: 'o' :: cs => based? 8 cs
  | '0' :: 'b' :: cs => based? 2 cs
  | cs => do
    let (negative, digits) := Text.splitSign cs
    let ds ← whole? digits
    let n := Text.signed negative ds
    if Int64.minValue.toInt ≤ n ∧ n ≤ Int64.maxValue.toInt then some n else none

/-- The digits of an exponent with its sign, after the letter that announces it. -/
def exponent? (cs : List Char) : Option Int := do
  let (negative, digits) := Text.splitSign cs
  let ds ← grouped? Char.isDigit digits
  some (Text.signed negative ds)

/-- Whether `significand * 10 ^ exponent`, the significand given by its digits, rounds to no finite
    double: whether it reaches the middle between the greatest and the next power of two. -/
def exceedsDoubles (digits : List Char) (exponent : Int) : Bool :=
  let significant := digits.dropWhile (· = '0')
  let least := Nat.pow 2 1024 - Nat.pow 2 970
  let magnitude := (significant.length : Int) + exponent
  if significant.isEmpty then false
  else if magnitude ≠ 309 then 309 < magnitude
  else if 0 ≤ exponent then least ≤ Text.ofDigits significant * Nat.pow 10 exponent.toNat
  else least * Nat.pow 10 (-exponent).toNat ≤ Text.ofDigits significant

/-- Whether a character announces an exponent. -/
def isExponentMark (c : Char) : Bool := c = 'e' || c = 'E'

/-- Whether a word is a number with a fraction or an exponent, or a name of a value that is no
    number. It must not be positive and too great for a double. -/
def isFloat (cs : List Char) : Bool :=
  let (negative, body) := Text.splitSign cs
  if body = "inf".toList ∨ body = "nan".toList then true
  else
    let front := body.takeWhile (!isExponentMark ·)
    let mark := body.dropWhile (!isExponentMark ·)
    let whole := front.takeWhile (· ≠ '.')
    let point := front.dropWhile (· ≠ '.')
    let exponent := if mark.isEmpty then some 0 else exponent? (mark.drop 1)
    let fraction := if point.isEmpty then some [] else grouped? Char.isDigit (point.drop 1)
    match whole? whole, fraction, exponent with
    | some ds, some fs, some e =>
      !(mark.isEmpty && point.isEmpty) &&
        (negative || !exceedsDoubles (ds ++ fs) (e - fs.length))
    | _, _, _ => false

/-! ## Times -/

/-- The number of two digits, if it lies between the bounds. -/
def two? (low high : Nat) (c d : Char) : Option Nat :=
  let n := Text.ofDigits [c, d]
  if c.isDigit && d.isDigit && low ≤ n && n ≤ high then some n else none

/-- The number of days of a month. -/
def daysOf (year month : Nat) : Nat :=
  if month = 2 then
    if year % 4 = 0 ∧ (year % 100 ≠ 0 ∨ year % 400 = 0) then 29 else 28
  else if month = 4 ∨ month = 6 ∨ month = 9 ∨ month = 11 then 30
  else 31

/-- What follows a date at the front of a word. -/
def afterDate? : List Char → Option (List Char)
  | y :: e :: a :: r :: '-' :: m :: o :: '-' :: d :: s :: rest => do
    let year := Text.ofDigits [y, e, a, r]
    let month ← two? 1 12 m o
    let _ ← two? 1 (daysOf year month) d s
    if [y, e, a, r].all Char.isDigit then some rest else none
  | _ => none

/-- What follows a time of day at the front of a word. -/
def afterTime? : List Char → Option (List Char)
  | h :: i :: ':' :: m :: n :: ':' :: s :: t :: rest => do
    let _ ← two? 0 23 h i
    let _ ← two? 0 59 m n
    let _ ← two? 0 60 s t
    match rest with
    | '.' :: f :: fs => if f.isDigit then some (fs.dropWhile Char.isDigit) else none
    | rest => some rest
  | _ => none

/-- Whether the rest of a word is an offset from universal time, or nothing. -/
def isOffset : List Char → Bool
  | [] | ['Z'] | ['z'] => true
  | [sign, h, i, ':', m, n] =>
    (sign = '+' || sign = '-') && (two? 0 23 h i).isSome && (two? 0 59 m n).isSome
  | _ => false

/-- Whether a word is a date, a time of day, or a date with a time of day after it. -/
def isTime (cs : List Char) : Bool :=
  match afterDate? cs with
  | some [] => true
  | some (delimiter :: rest) =>
    (delimiter = 'T' || delimiter = 't' || delimiter = ' ') && (afterTime? rest).any isOffset
  | none => (afterTime? cs).any List.isEmpty

/-- The value that a word is. -/
def scalar? (word : List Char) : Option Toml :=
  if word = "true".toList then some (.boolean true)
  else if word = "false".toList then some (.boolean false)
  else if isTime word then some (.time (String.ofList word))
  else if isFloat word then some (.float (String.ofList word))
  else (integer? word).map .integer

end Formulary.Toml
