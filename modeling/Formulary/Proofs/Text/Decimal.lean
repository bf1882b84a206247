import Formulary.Text.Decimal
import Mathlib.Tactic.SplitIfs

/-!
# Written integers read back

An integer in decimal is a numeral after a minus sign if it is negative, so what splits a sign off
and reads the digits finds the integer again (`splitSign_toString`, `signed_toDigits`). No numeral
has a zero in front that it could do without (`head?_toDigits_ne_zero`).
-/

namespace Formulary.Text

theorem ofDigits_toDigits (n : Nat) : ofDigits (Nat.toDigits 10 n) = n :=
  Nat.ofDigitChars_ten_toDigits

theorem isDigit_of_mem_toDigits {n : Nat} {c : Char} (h : c ∈ Nat.toDigits 10 n) : c.isDigit :=
  Nat.isDigit_of_mem_toDigits (by decide) (by decide) h

theorem isNumeral_toDigits (n : Nat) : isNumeral (Nat.toDigits 10 n) := by
  have hall : (Nat.toDigits 10 n).all Char.isDigit := by
    rw [List.all_eq_true]
    exact fun c => isDigit_of_mem_toDigits
  simp [isNumeral, hall]

/-- A written number has no zero in front, unless it is zero. -/
theorem head?_toDigits_ne_zero {n : Nat} (h : 0 < n) : (Nat.toDigits 10 n).head? ≠ some '0' := by
  induction n using Nat.strongRecOn with
  | ind n ih =>
    rcases Nat.lt_or_ge n 10 with hn | hn
    · have digits : ∀ d < 10, 0 < d → [Nat.digitChar d].head? ≠ some '0' := by decide
      rw [Nat.toDigits_of_lt_base hn]
      exact digits n hn h
    · -- the first digit is that of the number without its last digit
      have hfirst : (Nat.toDigits 10 (n / 10)).head? ≠ some '0' := ih (n / 10) (by omega) (by omega)
      have hne : Nat.toDigits 10 (n / 10) ≠ [] := Nat.toDigits_ne_nil
      obtain ⟨d, ds, hds⟩ := List.exists_cons_of_ne_nil hne
      rw [Nat.toDigits_of_base_le (by decide) hn, hds]
      rw [hds] at hfirst
      exact hfirst

/-- A negative integer is written as its absolute value after a minus sign. -/
theorem toList_toString (n : Int) :
    (toString n).toList =
      if n < 0 then '-' :: Nat.toDigits 10 n.natAbs else Nat.toDigits 10 n.natAbs := by
  rw [Int.toString_eq_repr, Int.repr_eq_if]
  split_ifs with h₀ h₁ h₁
  · omega
  · rw [Nat.toList_repr, show n.toNat = n.natAbs by omega]
  · rw [String.toList_append, Nat.toList_repr, show (-n).toNat = n.natAbs by omega]
    rfl
  · omega

/-- No sign is split off a numeral. -/
theorem splitSign_of_isNumeral {ds : List Char} (h : isNumeral ds) :
    splitSign ds = (false, ds) := by
  unfold splitSign
  split
  · simp [isNumeral] at h
  · simp [isNumeral] at h
  · rfl

theorem splitSign_toString (n : Int) :
    splitSign (toString n).toList = (decide (n < 0), Nat.toDigits 10 n.natAbs) := by
  rw [toList_toString]
  split_ifs with h
  · simp [splitSign, h]
  · rw [splitSign_of_isNumeral (isNumeral_toDigits _), decide_eq_false h]

theorem signed_toDigits (n : Int) : signed (decide (n < 0)) (Nat.toDigits 10 n.natAbs) = n := by
  rw [signed]
  rw [ofDigits_toDigits]
  split_ifs with h <;> simp only [decide_eq_true_eq] at h <;> omega

theorem int64?_toInt (n : Int64) : int64? n.toInt = some n := by
  have hlow : Int64.minValue.toInt ≤ n.toInt := Int64.minValue_le_toInt n
  have hhigh : n.toInt ≤ Int64.maxValue.toInt := Int64.toInt_le n
  rw [int64?, if_pos ⟨hlow, hhigh⟩, Int64.ofInt_toInt]

end Formulary.Text
