/-!
# Bytes and the texts they spell

A stored record, a file and a line on a wire are lists of bytes; most of them spell a text in
UTF-8.

* `text?_ofText`: the bytes of a text spell that text;
* `text?_eq_some_iff`: and no other bytes do.
-/

namespace Formulary

/-- A finite sequence of bytes. -/
abbrev Bytes := List UInt8

namespace Bytes

/-- The text in UTF-8. -/
def ofText (s : String) : Bytes :=
  s.toUTF8.data.toList

/-- The text that the bytes spell in UTF-8, if they spell one. -/
def text? (b : Bytes) : Option String :=
  String.fromUTF8? b.toByteArray

theorem toByteArray_ofText (s : String) : (ofText s).toByteArray = s.toByteArray := by
  apply ByteArray.ext
  simp [ofText, List.data_toByteArray]

theorem text?_ofText (s : String) : text? (ofText s) = some s := by
  rw [text?, toByteArray_ofText, String.fromUTF8?, dif_pos s.isValidUTF8]
  rfl

theorem ofText_of_text? {b : Bytes} {s : String} (h : text? b = some s) : ofText s = b := by
  simp only [text?, String.fromUTF8?] at h
  split at h
  · obtain rfl := Option.some.inj h
    simp [ofText, String.fromUTF8, List.data_toByteArray]
  · simp at h

/-- Bytes spell a text exactly if they are that text in UTF-8. -/
theorem text?_eq_some_iff {b : Bytes} {s : String} : text? b = some s ↔ b = ofText s :=
  ⟨fun h => (ofText_of_text? h).symm, fun h => h ▸ text?_ofText s⟩

theorem ofText_injective {s t : String} (h : ofText s = ofText t) : s = t := by
  have := text?_ofText s
  rw [h, text?_ofText] at this
  exact (Option.some.inj this).symm

theorem ofText_append (s t : String) : ofText (s ++ t) = ofText s ++ ofText t := by
  simp [ofText]

/-- A text is spelled character by character. -/
theorem ofText_ofList (cs : List Char) :
    ofText (String.ofList cs) = cs.flatMap String.utf8EncodeChar := by
  simp [ofText, List.utf8Encode, List.data_toByteArray]

end Bytes

end Formulary
