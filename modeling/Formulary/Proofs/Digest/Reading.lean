import Formulary.Proofs.Digest.Text
import Formulary.Proofs.Text.HexDigits
import Formulary.Proofs.Text.Words

/-!
# What a text says of a digest

Of every text it can be told from its characters whether it is a digest, and if not what is wrong
with it. Digests are in the order of their texts.

* `texts_correspond`: which texts are digests and which faults the others have, that writing and
  reading are inverse to each other, and that both keep the order.
-/

namespace Formulary.Digest

open Text (trim)
open Text.Hex (digits decode IsFirstStray)

variable {s : String} {n : Nat}

/-! ## What becomes of reading -/

theorem ofText_eq_invalidHex_iff {fault : Text.Hex.Fault} :
    ofText s = .error (.invalidHex fault) ↔ decode (Bytes.ofText (trim s)) = .error fault := by
  rw [ofText]
  rcases decode (Bytes.ofText (trim s)) with _ | b
  · simp
  · dsimp only
    rw [ofBytes]
    split_ifs <;> simp

theorem ofText_eq_invalidLength_iff :
    ofText s = .error (.invalidLength n) ↔
      (∃ b, decode (Bytes.ofText (trim s)) = .ok b ∧ b.length = n) ∧ n ≠ width := by
  rw [ofText]
  rcases decode (Bytes.ofText (trim s)) with _ | b
  · simp
  · dsimp only
    rw [ofBytes, width]
    split_ifs with h
    · simp +contextual [h]
    · constructor
      · intro hfault
        obtain rfl : b.length = n := by simpa using hfault
        exact ⟨⟨b, rfl, rfl⟩, h⟩
      · rintro ⟨⟨b, hb, rfl⟩, -⟩
        rw [Except.ok.inj hb]

theorem exists_ofText_iff :
    (∃ d, ofText s = .ok d) ↔ ∃ b, decode (Bytes.ofText (trim s)) = .ok b ∧ b.length = width := by
  rw [ofText]
  rcases decode (Bytes.ofText (trim s)) with _ | b
  · simp
  · dsimp only
    rw [ofBytes, width]
    split_ifs with h <;> simp [h]

/-- The bytes of a text are so many digits exactly if its characters are. -/
theorem digits_iff (t : String) :
    ((Bytes.ofText t).length = n ∧ ∀ b ∈ Bytes.ofText t, Text.Hex.IsDigit b) ↔
      t.length = n ∧ ∀ c ∈ t.toList, c ∈ digits := by
  rw [← Text.Hex.forall_mem_digits_iff]
  refine and_congr_left fun hall => ?_
  rw [Text.Hex.length_ofText hall]

/-! ## The order of the texts -/

theorem toText_lt_iff {d e : Digest} : d.toText < e.toText ↔ d.bytes < e.bytes :=
  Text.Hex.encode_lt_iff

theorem toText_le_iff {d e : Digest} : d.toText ≤ e.toText ↔ d.le e := by
  rw [← not_lt, toText_lt_iff, le, decide_eq_true_iff, List.not_lt]

/-- A text is a digest exactly if it has 64 hexadecimal digits and blanks around them; it is then
    the text of the digest but for the case. Otherwise an odd number of bytes is told first, then a
    byte that is no digit, then a wrong number of digits. What is written reads back, and one digest
    is before another one exactly if its text is. -/
theorem texts_correspond (s : String) :
    Text.Trims s.toList (trim s).toList ∧
    ((∃ d, ofText s = .ok d) ↔ (trim s).length = 64 ∧ ∀ c ∈ (trim s).toList, c ∈ digits) ∧
    (∀ d, ofText s = .ok d ↔ d.toText = (trim s).toLower) ∧
    ((∃ fault, ofText s = .error (.invalidHex fault)) ↔
      (trim s).utf8ByteSize % 2 = 1 ∨ ∃ c ∈ (trim s).toList, c ∉ digits) ∧
    (ofText s = .error (.invalidHex .oddLength) ↔ (trim s).utf8ByteSize % 2 = 1) ∧
    (∀ b n, ofText s = .error (.invalidHex (.notADigit b n)) ↔
      (trim s).utf8ByteSize % 2 = 0 ∧ IsFirstStray (Bytes.ofText (trim s)) b n) ∧
    (∀ n, ofText s = .error (.invalidLength n) ↔
      ((trim s).length = 2 * n ∧ ∀ c ∈ (trim s).toList, c ∈ digits) ∧ n ≠ 32) ∧
    (∀ d : Digest, ofText d.toText = .ok d) ∧
    (∀ d e : Digest, d.bytes < e.bytes ↔ d.toText < e.toText) ∧
    (∀ d e : Digest, d.le e ↔ d.toText ≤ e.toText) ∧
    ∀ ds : List Digest,
      ds.Pairwise (fun d e => d.le e) ↔ (ds.map toText).Pairwise fun t u => t ≤ u := by
  have hsize : (Bytes.ofText (trim s)).length = (trim s).utf8ByteSize := by simp [Bytes.ofText]
  refine ⟨Text.toList_trim_eq_iff.1 rfl, ?_, fun d => ?_, ?_, ?_, fun b n => ?_, fun n => ?_,
    ofText_toText, fun _ _ => toText_lt_iff.symm, fun _ _ => toText_le_iff.symm, fun ds => ?_⟩
  · rw [exists_ofText_iff, Text.Hex.exists_decode_length_iff, digits_iff]
    rfl
  · rw [ofText_eq_ok_iff, eq_comm]
  · have hstray : (∃ b ∈ Bytes.ofText (trim s), ¬Text.Hex.IsDigit b) ↔
        ∃ c ∈ (trim s).toList, c ∉ digits := by
      simpa using not_congr (Text.Hex.forall_mem_digits_iff (s := trim s)).symm
    simp only [ofText_eq_invalidHex_iff]
    rw [Text.Hex.exists_decode_error_iff, hsize, hstray]
  · rw [ofText_eq_invalidHex_iff, Text.Hex.decode_eq_error_iff, hsize]
    simp
  · rw [ofText_eq_invalidHex_iff, Text.Hex.decode_eq_error_iff, hsize]
    simp
  · rw [ofText_eq_invalidLength_iff, Text.Hex.exists_decode_length_iff, digits_iff]
    rfl
  · simp only [List.pairwise_map, toText_le_iff]

end Formulary.Digest
