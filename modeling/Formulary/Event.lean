import Formulary.Rejection
import Formulary.Settings

/-!
# Events

What happens while requests are served, for a log. An event is shown as one line: its level, and
its fields in order. The events that mark a stage of a request have the stage as their first field,
the others a text.
-/

namespace Formulary

/-- Something that happened. -/
inductive Event
  /-- A request came in, with a source of so many bytes. -/
  | received (bytes : Nat)
  | lexed (tokens : Nat)
  | parsed (nodes : Nat)
  | validated
  | stored (digest : Digest)
  | done (digest : Digest) (operands : Nat)
  /-- A request was rejected after it had reached a stage. -/
  | rejected (reached : Stage) (rejection : Rejection)
  /-- A store is ready. -/
  | ready (backend : Backend) (settle : Option Duration)
  | folderOpened (path : String)
  /-- An entry was written that had not been there. -/
  | written (digest : Digest)
  | alreadyWritten (digest : Digest)
  /-- The bytes under a digest have another one. -/
  | wrongBytes (digest actual : Digest)
  /-- An entry was looked for so many times, and not found. -/
  | notVisible (digest : Digest) (attempts : UInt32)
  /-- An entry could be read but not be trusted. -/
  | mistrusted (digest : Digest) (error : Store.Error)
  /-- A file in the folder of a store is no entry. -/
  | fileSkipped (path : String) (fault : Digest.Fault)

namespace Event

/-- The stage that an event marks. -/
def stage? : Event → Option Stage
  | received _ => some .received
  | lexed _ => some .lexed
  | parsed _ => some .parsed
  | validated => some .validated
  | stored _ => some .stored
  | done _ _ => some .done
  | rejected _ _ => some .rejected
  | _ => none

/-- How much an event matters. -/
def level : Event → Level
  | written _ => .info
  | wrongBytes _ _ | mistrusted _ _ | fileSkipped _ _ => .warn
  | _ => .debug

/-- The text of an event that marks no stage. -/
def message : Event → String
  | ready _ _ => "Interchange store ready"
  | folderOpened path => "Opened file entry store at " ++ path
  | written _ => "Stored new interchange entry"
  | alreadyWritten _ => "Entry already stored"
  | wrongBytes _ _ => "Stored bytes do not match their key"
  | notVisible _ _ => "Entry did not become visible"
  | mistrusted _ _ => "Stored entry failed re-validation"
  | fileSkipped path fault => "Skipping unexpected file " ++ path ++ ": " ++ fault.message
  | _ => ""

/-- A duration that may be absent. -/
def settleText : Option Duration → String
  | none => "None"
  | some d => "Some(" ++ d.toText ++ ")"

/-- The name of a backend in an event. -/
def backendText : Backend → String
  | .memory => "Memory"
  | .file => "File"

/-- What an event tells beyond its stage or text, by name. -/
def details [Wording] : Event → List (String × String)
  | received n => [("bytes", toString n)]
  | lexed n => [("tokens", toString n)]
  | parsed n => [("nodes", toString n)]
  | stored d | written d | alreadyWritten d => [("hash", d.toText)]
  | done d n => [("hash", d.toText), ("operands", toString n)]
  | rejected reached rejection => [("from", reached.name), ("error", rejection.message)]
  | ready backend settle => [("backend", backendText backend), ("settle", settleText settle)]
  | wrongBytes d actual => [("hash", d.toText), ("actual", actual.toText)]
  | notVisible d n => [("hash", d.toText), ("attempts", toString n)]
  | mistrusted d error => [("hash", d.toText), ("error", error.message)]
  | _ => []

/-- The fields of an event, in order. -/
def fields [Wording] (e : Event) : List (String × String) :=
  match e.stage? with
  | some stage => ("stage", stage.name) :: e.details
  | none => ("message", e.message) :: e.details

/-- The line of an event. -/
def toText [Wording] (e : Event) : String :=
  " ".intercalate (e.level.label :: e.fields.map fun field => field.1 ++ "=" ++ field.2)

end Event

end Formulary
