import Formulary.Digest
import Formulary.Proofs.Text.Hex

/-!
# Texts of digests

A digest is read from its text in either case, with blanks around it or not, and from no other text
(`ofText_eq_ok_iff`).
-/

namespace Formulary.Digest

theorem ofBytes_eq_ok_iff {b : Bytes} {d : Digest} : ofBytes b = .ok d ↔ b = d.bytes := by
  constructor
  · intro h
    rw [ofBytes] at h
    split_ifs at h with hlength
    rw [← Except.ok.inj h]
  · rintro rfl
    exact ofBytes_bytes d

/-- A digest is read exactly from its text, in either case and with blanks around it. -/
theorem ofText_eq_ok_iff {s : String} {d : Digest} :
    ofText s = .ok d ↔ (Text.trim s).toLower = d.toText := by
  have htext : (Text.trim s).toLower = d.toText ↔
      Text.Hex.decode (Bytes.ofText (Text.trim s)) = .ok d.bytes := by
    rw [Text.Hex.decode_eq_ok_iff, Text.Hex.map_lower_ofText]
    exact ⟨congrArg _, Bytes.ofText_injective⟩
  rw [htext, ofText]
  rcases Text.Hex.decode (Bytes.ofText (Text.trim s)) with fault | b
  · simp
  · simp [ofBytes_eq_ok_iff]

end Formulary.Digest
