import Formulary.Bytes
import Mathlib.Tactic.SplitIfs

/-!
# Characters in UTF-8

A character of ASCII is one byte, its code; the bytes of any other character are none of ASCII
(`utf8EncodeChar_of_ascii`, `le_of_mem_utf8EncodeChar`). So a byte of ASCII found in a text is a
character of it.
-/

namespace Formulary.Text

/-- A text is spelled character by character. -/
theorem ofText_eq_flatMap (s : String) :
    Bytes.ofText s = s.toList.flatMap String.utf8EncodeChar := by
  rw [← Bytes.ofText_ofList, String.ofList_toList]

theorem utf8EncodeChar_of_ascii {c : Char} (h : c.toNat < 128) :
    String.utf8EncodeChar c = [c.toUInt8] := by
  have hle : c.val.toNat ≤ 0x7f := Nat.le_of_lt_succ h
  rw [String.utf8EncodeChar]
  simp only [hle, if_true]
  rfl

theorem toNat_toUInt8 {c : Char} (h : c.toNat < 256) : c.toUInt8.toNat = c.toNat := by
  rw [Char.toUInt8, UInt32.toNat_toUInt8]
  exact Nat.mod_eq_of_lt h

/-- A byte of ASCII is the character that it is the code of. -/
theorem toUInt8_inj {c d : Char} (hc : c.toNat < 256) (hd : d.toNat < 256)
    (h : c.toUInt8 = d.toUInt8) : c = d := by
  have hnat := congrArg UInt8.toNat h
  rw [toNat_toUInt8 hc, toNat_toUInt8 hd] at hnat
  exact Char.toNat_inj.1 hnat

/-- No byte of a character beyond ASCII is one of ASCII. -/
theorem le_of_mem_utf8EncodeChar {c : Char} (h : 128 ≤ c.toNat) {b : UInt8}
    (hb : b ∈ String.utf8EncodeChar c) : 128 ≤ b := by
  have hle : ¬c.val.toNat ≤ 0x7f := Nat.not_le.2 h
  have high (n : Nat) (hlow : 128 ≤ n) (hhigh : n < 256) : 128 ≤ UInt8.ofNat n := by
    rw [UInt8.le_iff_toNat_le, UInt8.toNat_ofNat', Nat.mod_eq_of_lt hhigh]
    exact hlow
  rw [String.utf8EncodeChar] at hb
  simp only [hle, if_false] at hb
  -- each byte is a few bits of the code over a mark of at least 128
  split_ifs at hb <;> simp only [List.mem_cons, List.not_mem_nil, or_false] at hb
  · rcases hb with rfl | rfl <;> exact high _ (by omega) (by omega)
  · rcases hb with rfl | rfl | rfl <;> exact high _ (by omega) (by omega)
  · rcases hb with rfl | rfl | rfl | rfl <;> exact high _ (by omega) (by omega)

/-- A text of ASCII is read off its bytes one by one. -/
theorem map_ofNat_ofText {s : String} (h : ∀ c ∈ s.toList, c.toNat < 128) :
    (Bytes.ofText s).map (fun b => Char.ofNat b.toNat) = s.toList := by
  rw [ofText_eq_flatMap]
  generalize s.toList = cs at h
  induction cs with
  | nil => rfl
  | cons c cs ih =>
    obtain ⟨hc, hcs⟩ := List.forall_mem_cons.1 h
    rw [List.flatMap_cons, utf8EncodeChar_of_ascii hc, List.map_append, ih hcs, List.map_singleton,
      toNat_toUInt8 (by omega), Char.ofNat_toNat, List.singleton_append]

end Formulary.Text
