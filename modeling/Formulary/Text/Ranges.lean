/-!
# Sets of characters

Character classes of the Unicode standard are given as lists of closed ranges of code points. This
file holds the one test on such lists; the classes themselves are in the files beside it.
-/

namespace Formulary.Text

/-- A set of code points as closed ranges, lower end first. -/
abbrev Ranges := List (Nat × Nat)

namespace Ranges

/-- Whether one of the ranges holds the code point of `c`. -/
def covers (ranges : Ranges) (c : Char) : Bool :=
  ranges.any fun (low, high) => low ≤ c.toNat && c.toNat ≤ high

theorem covers_iff {ranges : Ranges} {c : Char} :
    ranges.covers c = true ↔ ∃ r ∈ ranges, r.1 ≤ c.toNat ∧ c.toNat ≤ r.2 := by
  simp [covers]

end Ranges

end Formulary.Text
