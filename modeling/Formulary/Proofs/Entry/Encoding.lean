import Formulary.Entry.Encoding
import Formulary.Proofs.Expr.Canonical
import Formulary.Proofs.Expr.Json

/-!
# Entries read back

Reading accepts much that is not written, but then the entry is written again and held against the
bytes. So bytes decode to an entry exactly if they are what it is written as and nest no deeper than
JSON is read at all. The trees of programs are far from that deep, whatever forms they are made of.

* `eq_of_encode_eq`: no two entries are encoded alike, however deep they nest;
* `decode_encode`: what becomes of an entry that was encoded;
* `decode_eq_ok_iff_encode`: the bytes that are stored entries.
-/

namespace Formulary.Entry

open Formulary (Json)
open Json (Written)

/-- All numbers in an entry are integers of a word. -/
theorem isExact_toJson (entry : Entry) : entry.toJson.IsExact := by
  have hversion : (Json.int formatVersion).IsExact := .int ⟨by decide, by decide⟩
  have hoperands : (Json.array (entry.operands.map Digest.toJson)).IsExact :=
    .array (by simpa [Digest.toJson] using fun d _ => .string d.toText)
  exact .object (by
    simpa using ⟨hversion, .string entry.operator, entry.parsed.isExact_toJson, hoperands⟩)

/-- The JSON of a stored entry is read as the entry that was written. -/
theorem read?_encode (entry : Entry) : Json.read? entry.encode = some entry.toJson.asWritten :=
  Json.read?_bytes entry.isExact_toJson

theorem readsBack_digest (d : Digest) :
    Json.ReadsBack (fun _ => Digest.ofWritten?) d.toJson d := by
  intro room
  simp [Digest.toJson, Json.asWritten, Digest.ofWritten?, Written.text?, Digest.ofText_toText,
    Except.toOption, Json.height]

/-- A written entry has the four fields of an entry. -/
theorem asWritten_toJson (entry : Entry) : entry.toJson.asWritten =
    .object [(some "version", .number (some (.integer formatVersion))),
      (some "operator", .string (some entry.operator)),
      (some "parsed", entry.parsed.toJson.asWritten),
      (some "operands", (Json.array (entry.operands.map Digest.toJson)).asWritten)] :=
  rfl

/-- The text of an entry is read whatever its depth, so the fields can be told from it. -/
theorem eq_of_encode_eq {e f : Entry} (h : e.encode = f.encode) : e = f := by
  have hwritten : e.toJson.asWritten = f.toJson.asWritten := by
    have hread := e.read?_encode
    rw [h, read?_encode] at hread
    exact (Option.some.inj hread).symm
  rw [asWritten_toJson, asWritten_toJson] at hwritten
  simp only [Written.object.injEq, List.cons.injEq, Prod.mk.injEq, Written.string.injEq,
    Option.some.injEq, true_and, and_true] at hwritten
  obtain ⟨hoperator, hparsed, hoperands⟩ := hwritten
  have hparsed := e.parsed.readsBack_toJson.eq_of_asWritten_eq f.parsed.readsBack_toJson hparsed
  have hoperands := (Json.readsBack_array fun d _ => readsBack_digest d).eq_of_asWritten_eq
    (Json.readsBack_array fun d _ => readsBack_digest d) hoperands
  obtain ⟨operator, parsed, operands⟩ := e
  obtain ⟨operator', parsed', operands'⟩ := f
  obtain rfl : operator = operator' := hoperator
  obtain rfl : parsed = parsed' := hparsed
  obtain rfl : operands = operands' := hoperands
  rfl

theorem height_toJson (entry : Entry) : entry.toJson.height =
    max entry.parsed.toJson.height (Json.array (entry.operands.map Digest.toJson)).height + 1 := by
  simp only [toJson, Json.int, Json.height, Json.membersHeight]
  omega

theorem version?_toJson (entry : Entry) : version? entry.toJson.asWritten = some formatVersion := by
  rw [asWritten_toJson]
  simp [version?, Written.record?, Json.knownFields, Json.Fields.required,
    Json.greatestHeight, Written.word?, Written.between?, formatVersion]

/-- A written entry is read back unless it nests too deep. -/
theorem ofWritten?_toJson (entry : Entry) :
    ofWritten? entry.toJson.asWritten =
      if entry.toJson.height ≤ Json.greatestHeight then some entry else none := by
  have hparsed := entry.parsed.readsBack_toJson (Json.greatestHeight - 1)
  have hoperands := Json.readsBack_array (fun d (_ : d ∈ entry.operands) => readsBack_digest d)
    (Json.greatestHeight - 1)
  have hread : ofWritten? entry.toJson.asWritten = (do
      let parsed ← Expr.ofWritten? (Json.greatestHeight - 1) entry.parsed.toJson.asWritten
      let operands ← (Json.array (entry.operands.map Digest.toJson)).asWritten.list?
        (fun _ => Digest.ofWritten?) (Json.greatestHeight - 1)
      some ⟨entry.operator, parsed, operands⟩) := by
    rw [asWritten_toJson]
    simp [ofWritten?, Written.record?, Json.knownFields, Json.Fields.required, List.lookup_cons,
      Json.greatestHeight, Written.word?, Written.between?, Written.text?, formatVersion]
  -- the entry itself is the one level that is not left for its fields
  have hroom (m n : Nat) : max m n + 1 ≤ Json.greatestHeight ↔
      m ≤ Json.greatestHeight - 1 ∧ n ≤ Json.greatestHeight - 1 := by
    simp only [Json.greatestHeight]
    omega
  rw [hread, hparsed, hoperands, height_toJson]
  simp only [Option.bind_eq_bind, Json.bind_ite, ← ite_and, hroom]

/-- What was encoded decodes unless it nests too deep. -/
theorem decode_encode (entry : Entry) :
    decode entry.encode =
      if entry.toJson.height ≤ Json.greatestHeight then .ok entry
      else .error (.unreadable entry.encode) := by
  unfold decode
  simp only [read?_encode, version?_toJson, ofWritten?_toJson, ne_eq, not_true_eq_false, if_false]
  split_ifs <;> simp_all

theorem decode_eq_ok_iff {b : Bytes} {entry : Entry} :
    decode b = .ok entry ↔ b = entry.encode ∧ entry.toJson.height ≤ Json.greatestHeight := by
  constructor
  · intro h
    -- what was decoded is held against the bytes, so only the depth is left to see
    obtain rfl := encode_of_decode h
    refine ⟨rfl, ?_⟩
    rw [decode_encode] at h
    by_contra hdeep
    rw [if_neg hdeep] at h
    cases h
  · rintro ⟨rfl, hheight⟩
    rw [decode_encode, if_pos hheight]

theorem height_operands (ds : List Digest) : (Json.array (ds.map Digest.toJson)).height = 1 := by
  have hmap : ds.map Digest.toJson = (ds.map Digest.toText).map .string := by
    rw [List.map_map]
    rfl
  rw [hmap, Json.height, Json.itemsHeight_map_string]

/-- A tree that is no deeper than any program may be leaves room for all that is written of it. -/
theorem height_toJson_le {entry : Entry} (h : entry.parsed.formDepth ≤ Expr.greatestMaxDepth) :
    entry.toJson.height ≤ Json.greatestHeight := by
  have hparsed := entry.parsed.height_toJson_le
  rw [height_toJson, height_operands]
  simp only [Json.greatestHeight, Expr.greatestMaxDepth] at h ⊢
  omega

theorem decode_encode_of_formDepth_le {entry : Entry}
    (h : entry.parsed.formDepth ≤ Expr.greatestMaxDepth) : decode entry.encode = .ok entry :=
  decode_eq_ok_iff.2 ⟨rfl, height_toJson_le h⟩

/-- Bytes decode to an entry exactly if it is encoded as them and they nest no deeper than JSON is
    read. Every tree of a program that is accepted somewhere is far from that deep. -/
theorem decode_eq_ok_iff_encode :
    (∀ (b : Bytes) (entry : Entry),
      decode b = .ok entry ↔ b = entry.encode ∧ entry.toJson.height ≤ Json.greatestHeight) ∧
    (∀ entry : Entry, entry.parsed.formDepth ≤ Expr.greatestMaxDepth →
      decode entry.encode = .ok entry) ∧
    ∀ (maxDepth : Nat) (source : String) (entry : Entry),
      Expr.parse maxDepth source = .ok entry.parsed → decode entry.encode = .ok entry := by
  refine ⟨fun _ _ => decode_eq_ok_iff, fun _ => decode_encode_of_formDepth_le,
    fun maxDepth source entry h => decode_encode_of_formDepth_le ?_⟩
  obtain ⟨-, -, hdepth⟩ := Expr.parse_eq_ok_iff.1 h
  exact hdepth.trans (Nat.min_le_right _ _)

/-- An application in a conditional in a lambda is read back, with an operator text that has nothing
    to do with it. -/
theorem decode_encode_mixed :
    decode (encode ⟨"\n\"é", .lambda ["x"] (.cond (.symbol "x") (.apply (.symbol "if") [])
      (.integer (-9223372036854775808))), [Digest.of []]⟩) =
      .ok ⟨"\n\"é", .lambda ["x"] (.cond (.symbol "x") (.apply (.symbol "if") [])
        (.integer (-9223372036854775808))), [Digest.of []]⟩ :=
  decode_eq_ok_iff_encode.2.1 _ (by decide)

end Formulary.Entry
