/-!
# Double-precision numbers in JSON texts

How a number that is no machine integer is turned into a double and written again.

* `ofParts?` scales a significand of 64 bits by a power of ten, rounding at each step;
* `shortest` finds the coarsest decimal grid that has a point among the numbers that round to a
  given double, and on it the point nearest to it;
* `write` spells that point with the decimal point among its digits from `1e-5` to `1e16`, and with
  a signed exponent outside.
-/

namespace Formulary.Json.Double

/-- A power of ten up to the greatest that a double reaches. -/
def powerOfTen (n : Nat) : Float :=
  Float.ofScientific 1 false n

/-- The double `f` times `10 ^ exponent`, if finite. Beyond the powers of ten that are doubles, a
    number is first brought nearer in steps of `10 ^ 308`. -/
def scale (f : Float) (exponent : Int) : Nat → Option Float
  | 0 => some f
  | steps + 1 =>
    if exponent.natAbs ≤ 308 then
      if 0 ≤ exponent then
        let g := f * powerOfTen exponent.natAbs
        if g.isInf then none else some g
      else some (f / powerOfTen exponent.natAbs)
    else if f == 0 then some f
    else if 0 ≤ exponent then none
    else scale (f / powerOfTen 308) (exponent + 308) steps

/-- The double of the given sign that is near `significand * 10 ^ exponent`, if finite. -/
def ofParts? (negative : Bool) (significand : UInt64) (exponent : Int) : Option UInt64 :=
  (scale significand.toFloat exponent (exponent.natAbs / 308 + 1)).map fun f =>
    (if negative then -f else f).toBits

/-- The finite double of the given bits without its sign, as `m * 2 ^ q`. -/
def decode (bits : UInt64) : Nat × Int :=
  let fraction : Nat := bits.toNat % Nat.pow 2 52
  let exponent : Nat := bits.toNat / Nat.pow 2 52 % Nat.pow 2 11
  if exponent = 0 then (fraction, -1074) else (Nat.pow 2 52 + fraction, (exponent : Int) - 1075)

/-- A point of a decimal grid, `digits * 10 ^ exponent`. -/
structure Decimal where
  digits : Nat
  exponent : Int

/-- The point of the grid of `10 ^ p` nearest to `m * 2 ^ q` among those that round to it, if there
    is one: `m * 2 ^ q` and the ends of what rounds to it are compared in quarters of `2 ^ q`. -/
def onGrid? (m : Nat) (q p : Int) : Option Decimal :=
  let numerator := Nat.pow 2 (q - 2).toNat * Nat.pow 10 (-p).toNat
  let denominator := Nat.pow 2 (2 - q).toNat * Nat.pow 10 p.toNat
  let value := 4 * m * numerator
  let low := (4 * m - (if m = Nat.pow 2 52 ∧ -1074 < q then 1 else 2)) * numerator
  let high := (4 * m + 2) * numerator
  let rounds (c : Nat) : Bool :=
    0 < c && (if m % 2 = 0 then low ≤ c * denominator && c * denominator ≤ high
      else low < c * denominator && c * denominator < high)
  let below := value / denominator
  let above := below + 1
  let nearest :=
    match rounds below, rounds above with
    | true, true =>
      let down := value - below * denominator
      let up := above * denominator - value
      if down < up ∨ (down = up ∧ below % 2 = 0) then some below else some above
    | true, false => some below
    | false, true => some above
    | false, false => none
  nearest.map (⟨·, p⟩)

/-- The point nearest to `m * 2 ^ q` on the coarsest grid that has one rounding to it, grids being
    tried from `10 ^ p` down. -/
def shortestFrom (m : Nat) (q : Int) : Nat → Int → Decimal
  | 0, p => ⟨0, p⟩
  | tries + 1, p =>
    match onGrid? m q p with
    | some d => d
    | none => shortestFrom m q tries (p - 1)

/-- The fewest digits that read back as `m * 2 ^ q`, for `m` above zero. -/
def shortest (m : Nat) (q : Int) : Decimal :=
  shortestFrom m q 700 310

/-- The digits of a decimal with the point or the exponent where the format wants it. -/
def Decimal.write (d : Decimal) : String :=
  let digits := Nat.toDigits 10 d.digits
  let length := digits.length
  let point := length + d.exponent
  if 0 ≤ d.exponent ∧ point ≤ 16 then
    String.ofList (digits ++ List.replicate d.exponent.toNat '0') ++ ".0"
  else if 0 < point ∧ point ≤ 16 then
    String.ofList (digits.take point.toNat ++ '.' :: digits.drop point.toNat)
  else if -5 < point ∧ point ≤ 0 then
    "0." ++ String.ofList (List.replicate (-point).toNat '0' ++ digits)
  else
    let fraction := digits.drop 1
    String.ofList (digits.take 1 ++ (if fraction.isEmpty then [] else '.' :: fraction)) ++
      (if 0 < point then "e+" else "e") ++ toString (point - 1)

/-- The text of the finite double with the given bits. -/
def write (bits : UInt64) : String :=
  let (m, q) := decode bits
  let sign := if bits.toNat < Nat.pow 2 63 then "" else "-"
  sign ++ (if m = 0 then "0.0" else (shortest m q).write)

end Formulary.Json.Double
