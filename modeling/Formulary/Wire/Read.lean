import Formulary.Json.Fields
import Formulary.Wire

/-!
# Reading messages

A message is read from its JSON value with the tolerance of `Formulary.Json.Fields`. Where a value
may be of either of two types nothing of it is skipped: all of it must denote something, whichever
type it turns out to be of.
-/

namespace Formulary.Wire

open Formulary (Json)
open Formulary.Json (Written)

/-- The request that a value is. -/
def Request.ofWritten? (room : Nat) (w : Written) : Option Request := do
  let fields ← w.record? ["id", "method", "params"] false room
  let id ← fields.required "id" (Written.word? 64)
  let method ← fields.required "method" Written.text?
  let params ← fields.orElse "params" .null (Written.free? (room - 1))
  some ⟨id, method, params⟩

/-- The response that a value is. -/
def Response.ofWritten? (room : Nat) (w : Written) : Option Response := do
  let fields ← w.record? ["id", "result"] false room
  let id ← fields.required "id" (Written.word? 64)
  let result ← fields.required "result" (Written.free? (room - 1))
  some ⟨id, result⟩

/-- The error that a value is. -/
def ErrorObject.ofWritten? (room : Nat) (w : Written) : Option ErrorObject := do
  let fields ← w.record? ["code", "message", "data"] false room
  let code ← fields.required "code"
    (Written.between? Int32.minValue.toInt Int32.maxValue.toInt)
  let message ← fields.required "message" Written.text?
  let data ← fields.optional "data" (Written.free? (room - 1))
  some ⟨code, message, data⟩

/-- The answer to a request that failed that a value is. -/
def ErrorResponse.ofWritten? (room : Nat) (w : Written) : Option ErrorResponse := do
  let fields ← w.record? ["id", "error"] false room
  let id ← fields.required "id" (Written.word? 64)
  let error ← fields.required "error" (ErrorObject.ofWritten? (room - 1))
  some ⟨id, error⟩

/-- The line of a server that a value is: an error if it reads as one. -/
def ServerMessage.ofWritten? (room : Nat) (w : Written) : Option ServerMessage := do
  let _ ← w.value? room
  (ErrorResponse.ofWritten? room w).map .error <|>
    (Response.ofWritten? room w).map .response

/-- The parameters that a value is. -/
def TestOutputParams.ofWritten? (room : Nat) (w : Written) : Option TestOutputParams := do
  let fields ← w.record? ["params_string"] false room
  (fields.required "params_string" Written.text?).map (⟨·⟩)

/-- The result of a check that a value is. -/
def CheckResult.ofWritten? (room : Nat) (w : Written) : Option CheckResult := do
  let fields ← w.record? ["accepted", "canonical", "error", "stage"] false room
  let accepted ← fields.required "accepted" Written.bool?
  let canonical ← fields.optional "canonical" Written.text?
  let error ← fields.optional "error" Written.text?
  let stage ← fields.optional "stage" Written.text?
  some ⟨accepted, canonical, error, stage⟩

/-- The parameters that a value is. -/
def CreateEntryParams.ofWritten? (room : Nat) (w : Written) : Option CreateEntryParams := do
  let fields ← w.record? ["expr", "args"] false room
  let source ← fields.required "expr" Written.text?
  let operands ← fields.orElse "args" [] (Written.texts? (room - 1))
  some ⟨source, operands⟩

/-- The parameters that a value is: a text, or an object (no array) with the text in it. -/
def EntryRef.ofWritten? (room : Nat) (w : Written) : Option EntryRef := do
  let _ ← w.value? room
  match w with
  | .string (some hash) => some (.bare hash)
  | .object _ => do
    let fields ← w.record? ["hash"] false room
    (fields.required "hash" Written.text?).map .named
  | _ => none

/-- The entry that a value is. -/
def EntryRecord.ofWritten? (room : Nat) (w : Written) : Option EntryRecord := do
  let fields ← w.record? ["hash", "operator", "parsed", "operands"] false room
  let hash ← fields.required "hash" Written.text?
  let operator ← fields.required "operator" Written.text?
  let parsed ← fields.required "parsed" (Written.free? (room - 1))
  let operands ← fields.orElse "operands" [] (Written.texts? (room - 1))
  some ⟨hash, operator, parsed, operands⟩

/-- The line of a transcript that a value is. -/
def CommandLog.ofWritten? (room : Nat) (w : Written) : Option CommandLog := do
  let fields ← w.record? ["timestamp", "command"] false room
  let timestamp ← fields.required "timestamp" Written.text?
  let command ← fields.required "command" Written.text?
  some ⟨timestamp, command⟩

/-- The line of a transcript that a value is. -/
def OutputLog.ofWritten? (room : Nat) (w : Written) : Option OutputLog := do
  let fields ← w.record? ["timestamp", "output"] false room
  let timestamp ← fields.required "timestamp" Written.text?
  let output ← fields.required "output" Written.text?
  some ⟨timestamp, output⟩

/-- The message that a text is, read by `read` as a whole. -/
def read? {α : Type} (read : Nat → Written → Option α) (text : String) : Option α := do
  let w ← Json.read? (Bytes.ofText text)
  read Json.greatestHeight w

end Formulary.Wire
