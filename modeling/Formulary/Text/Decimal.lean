/-!
# Decimal numerals

Reading whole numbers written in ASCII digits, with a range where the number has to fit one.

* `ofDigits_append_singleton`: each further digit multiplies by ten and adds itself;
* `int64?_isSome_iff`: a number is read exactly if it fits.
-/

namespace Formulary.Text

/-- The number that a run of ASCII digits denotes, most significant digit first. -/
def ofDigits (ds : List Char) : Nat :=
  ds.foldl (fun n d => 10 * n + (d.toNat - '0'.toNat)) 0

@[simp] theorem ofDigits_nil : ofDigits [] = 0 := rfl

@[simp] theorem ofDigits_append_singleton (ds : List Char) (d : Char) :
    ofDigits (ds ++ [d]) = 10 * ofDigits ds + (d.toNat - '0'.toNat) := by
  simp [ofDigits]

/-- A run of at least one ASCII digit. -/
def isNumeral (cs : List Char) : Bool :=
  !cs.isEmpty && cs.all Char.isDigit

/-- A numeral after an optional sign, as its sign (negative or not) and digits. -/
def splitSign : List Char → Bool × List Char
  | '-' :: ds => (true, ds)
  | '+' :: ds => (false, ds)
  | ds => (false, ds)

/-- The number with the sign and the digits given. -/
def signed (negative : Bool) (ds : List Char) : Int :=
  if negative then -(ofDigits ds : Int) else ofDigits ds

/-- The machine integer of value `n`, if `n` fits 64 bits with a sign. -/
def int64? (n : Int) : Option Int64 :=
  if Int64.minValue.toInt ≤ n ∧ n ≤ Int64.maxValue.toInt then some (Int64.ofInt n) else none

theorem int64?_isSome_iff {n : Int} :
    (int64? n).isSome ↔ -9223372036854775808 ≤ n ∧ n < 9223372036854775808 := by
  have h1 : Int64.minValue.toInt = -9223372036854775808 := by decide
  have h2 : Int64.maxValue.toInt = 9223372036854775807 := by decide
  unfold int64?
  split <;> simp <;> omega

/-- A count that fits an unsigned word of 64 bits, written in digits after an optional plus. -/
def word64? (cs : List Char) : Option Nat :=
  match splitSign cs with
  | (false, ds) => if isNumeral ds ∧ ofDigits ds < Nat.pow 2 64 then some (ofDigits ds) else none
  | (true, _) => none

end Formulary.Text
