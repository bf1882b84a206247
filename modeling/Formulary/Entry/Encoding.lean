import Formulary.Digest.Json
import Formulary.Entry
import Formulary.Expr.Json
import Formulary.Json.Write
import Formulary.Wording

/-!
# The encoding of entries

An entry is stored as one JSON object on one line, its members in a fixed order, and known by the
digest of these bytes. Reading accepts no other bytes for it: what reads as an entry but would be
written otherwise is refused, so an entry has one digest.

* `encode_of_decode`: what decodes was encoded.
-/

namespace Formulary.Entry

open Formulary (Json)

/-- The version of the format, written in front. -/
def formatVersion : Nat := 1

/-- The JSON value of an entry. -/
def toJson (entry : Entry) : Json :=
  .object [("version", .int formatVersion), ("operator", .string entry.operator),
    ("parsed", entry.parsed.toJson), ("operands", .array (entry.operands.map Digest.toJson))]

/-- The bytes that an entry is stored as. -/
def encode (entry : Entry) : Bytes :=
  entry.toJson.bytes

/-- The digest of an entry. -/
def digest (entry : Entry) : Digest :=
  Digest.of entry.encode

/-- Why bytes are no stored entry. -/
inductive DecodeError
  /-- They are not the JSON text of an entry. -/
  | unreadable (b : Bytes)
  /-- They are not what the entry they denote is written as. -/
  | notCanonical
  | unsupportedVersion (version : Nat)
  deriving DecidableEq

/-- What is said of bytes that are no stored entry. -/
def DecodeError.message [Wording] : DecodeError → String
  | .unreadable b => "Corrupt entry encoding: " ++ Wording.notJson "entry" b
  | .notCanonical => "Corrupt entry encoding: non-canonical encoding"
  | .unsupportedVersion v => "Unsupported entry format version: " ++ toString v

/-- The version that a written record claims, whatever else stands in it. -/
def version? (w : Json.Written) : Option Nat := do
  let fields ← w.record? ["version"] false Json.greatestHeight
  fields.required "version" (Json.Written.word? 32)

/-- The entry that a written record is. -/
def ofWritten? (w : Json.Written) : Option Entry := do
  let room := Json.greatestHeight - 1
  let fields ← w.record? ["version", "operator", "parsed", "operands"] true Json.greatestHeight
  let _ ← fields.required "version" (Json.Written.word? 32)
  let operator ← fields.required "operator" Json.Written.text?
  let parsed ← fields.required "parsed" (Expr.ofWritten? room)
  let operands ← fields.required "operands"
    (Json.Written.list? (fun _ => Digest.ofWritten?) room)
  some ⟨operator, parsed, operands⟩

/-- The entry that was encoded as the given bytes. The version is looked at first, for a later
    format may have other fields. -/
def decode (b : Bytes) : Except DecodeError Entry :=
  match Json.read? b with
  | none => .error (.unreadable b)
  | some w =>
    match version? w with
    | none => .error (.unreadable b)
    | some version =>
      if version ≠ formatVersion then .error (.unsupportedVersion version)
      else
        match ofWritten? w with
        | none => .error (.unreadable b)
        | some entry => if entry.encode = b then .ok entry else .error .notCanonical

/-- Bytes decode to an entry only if it was encoded as them. -/
theorem encode_of_decode {b : Bytes} {entry : Entry} (h : decode b = .ok entry) :
    entry.encode = b := by
  unfold decode at h
  repeat' split at h
  all_goals try cases h
  assumption

end Formulary.Entry
