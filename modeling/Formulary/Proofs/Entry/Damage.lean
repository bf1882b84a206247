import Formulary.Proofs.Entry.Encoding
import Formulary.Proofs.Json.Endings

/-!
# Entries that were cut or continued

The encoding of an entry is an object, so it says itself where it ends. With some of its end missing
it is no JSON text. With bytes behind it, it is one only if they are spaces; then the entry is read,
but would be written without them. Either way the bytes are told from those of a later version of
the format, and no entry is encoded as the beginning of another.

* `decode_of_append_eq`, `decode_append`: what is said of bytes that are too few or too many;
* `corrupt_of_length`: they are corrupt.
-/

namespace Formulary.Entry

open Formulary (Json)

/-- The bytes are no entry, of whatever version. -/
def DecodeError.IsCorrupt : DecodeError → Prop
  | unreadable _ | notCanonical => True
  | unsupportedVersion _ => False

variable {entry : Entry}

/-- An entry with its end missing is not read. -/
theorem decode_of_append_eq {b missing : Bytes} (h : b ++ missing = entry.encode)
    (hmissing : missing ≠ []) : decode b = .error (.unreadable b) := by
  have hread : Json.read? b = none :=
    Json.read?_eq_none_of_append entry.isExact_toJson h hmissing
  rw [decode, hread]

/-- An entry with spaces behind it is read if it could be read without them, but not accepted. -/
theorem decode_append {more : Bytes} (hmore : more ≠ []) :
    decode (entry.encode ++ more) = .error
      (if more.all Json.isSpace ∧ entry.toJson.height ≤ Json.greatestHeight then
        .notCanonical else .unreadable (entry.encode ++ more)) := by
  have hread : Json.read? (entry.encode ++ more) = if more.all Json.isSpace then
      some entry.toJson.asWritten else none :=
    Json.read?_bytes_append entry.isExact_toJson more
  have hlength : entry.encode ≠ entry.encode ++ more := by simpa using hmore
  by_cases hspaces : more.all Json.isSpace
  · rw [if_pos hspaces] at hread
    rw [decode, hread]
    simp only [version?_toJson, ofWritten?_toJson, ne_eq, not_true_eq_false, if_false]
    by_cases hheight : entry.toJson.height ≤ Json.greatestHeight
    · rw [if_pos hheight, if_pos ⟨hspaces, hheight⟩]
      exact if_neg hlength
    · rw [if_neg hheight, if_neg fun h => hheight h.2]
  · rw [if_neg hspaces] at hread
    rw [decode, hread, if_neg fun h => hspaces h.1]

/-- A beginning of an encoded entry, or one with more behind it, is corrupt: it is no other entry,
    and none of another version. -/
theorem corrupt_of_length {b : Bytes} (h : b <+: entry.encode ∨ entry.encode <+: b)
    (hne : b ≠ entry.encode) : ∃ error, decode b = .error error ∧ error.IsCorrupt := by
  rcases h with ⟨missing, hcut⟩ | ⟨more, rfl⟩
  · have hmissing : missing ≠ [] := by
      rintro rfl
      exact hne (by simpa using hcut)
    exact ⟨_, decode_of_append_eq hcut hmissing, trivial⟩
  · refine ⟨_, decode_append (by simpa using hne), ?_⟩
    split_ifs <;> trivial

/-- Nothing is left, or the cut is inside the bytes of a character or in an escape; or there is a
    space too many. -/
theorem corrupt_of_length_character :
    (∀ n ∈ [0, 26, 28], ∃ error,
      decode ((encode ⟨"é\n", .symbol "é", []⟩).take n) = .error error ∧ error.IsCorrupt) ∧
    ∃ error, decode (encode ⟨"é\n", .symbol "é", []⟩ ++ [Json.ascii ' ']) = .error error ∧
      error.IsCorrupt := by
  have hne : ∀ n ∈ [0, 26, 28], (encode ⟨"é\n", .symbol "é", []⟩).take n ≠
      encode ⟨"é\n", .symbol "é", []⟩ := by
    decide +kernel
  exact ⟨fun n hn => corrupt_of_length (.inl (List.take_prefix n _)) (hne n hn),
    corrupt_of_length (.inr (List.prefix_append _ _)) (by simp)⟩

end Formulary.Entry
