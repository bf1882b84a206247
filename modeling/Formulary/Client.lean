import Formulary.Wire.Read
import Formulary.Wire.Write
import Formulary.Wording

/-!
# Clients

A client of a line server writes a request as a line and reads the line that answers it. It knows
digests as texts only.
-/

namespace Formulary.Client

open Wire

/-- A call of a method: what is asked, and how the result is read. -/
structure Call (α : Type) where
  method : String
  params : Json
  read : Nat → Json.Written → Option α

/-- Checks a program. -/
def check (source : String) : Call CheckResult :=
  ⟨Wire.check, (TestOutputParams.mk source).toJson, CheckResult.ofWritten?⟩

/-- Stores a program; the result is the text of a digest. -/
def create (source : String) (operands : List String) : Call String :=
  ⟨Wire.createEntry, (CreateEntryParams.mk source operands).toJson, fun _ => Json.Written.text?⟩

/-- Fetches an entry. -/
def fetch (hash : String) : Call EntryRecord :=
  ⟨Wire.getEntry, (EntryRef.named hash).toJson, EntryRecord.ofWritten?⟩

/-- Fetches an entry as soon as it is visible. -/
def await (hash : String) : Call EntryRecord :=
  ⟨Wire.awaitEntry, (EntryRef.named hash).toJson, EntryRecord.ofWritten?⟩

/-- Lists the digests of all entries. -/
def list : Call (List String) :=
  ⟨Wire.listEntries, .null, Json.Written.texts?⟩

/-- The request of a call. Its parameters are a free value, so the members of objects in them stand
    in the order of their keys. -/
def Call.request {α : Type} (call : Call α) (id : Nat) : Request :=
  ⟨id, call.method, call.params.sorted⟩

/-- The line of a call. -/
def Call.line {α : Type} (call : Call α) (id : Nat) : String :=
  (call.request id).toJson.compact

/-- Why a call gave nothing. -/
inductive Failure
  /-- The server has ended without an answer. -/
  | closed
  /-- There is no server to ask any more. -/
  | broken
  /-- The answer is no message, or not one with such a result. -/
  | unreadable (said : String)
  | refused (error : ErrorObject)

/-- What is said of a call that gave nothing. -/
def Failure.message : Failure → String
  | closed => "Server closed the connection"
  | broken => "Broken pipe (os error 32)"
  | unreadable said => said
  | refused error =>
    match error.data with
    | some data => error.message ++ " (" ++ data.compact ++ ")"
    | none => error.message

/-- What the line that answers a call tells. -/
def Call.outcome [Wording] {α : Type} (call : Call α) (line : String) : Except Failure α :=
  match Wire.read? ServerMessage.ofWritten? line with
  | some (.response response) =>
    match call.read Json.greatestHeight response.result.asWritten with
    | some a => .ok a
    | none =>
      .error (.unreadable (Wording.notJson ("result of " ++ call.method) response.result.bytes))
  | some (.error response) => .error (.refused response.error)
  | none => .error (.unreadable (Wording.notJson "ServerMessage" (Bytes.ofText line)))

end Formulary.Client
