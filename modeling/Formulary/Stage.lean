import Formulary.Json.Fields

/-!
# Stages

The stages that a request to store a program passes, in order, and the one it ends in instead when
it is rejected.
-/

namespace Formulary

/-- A stage of a request. -/
inductive Stage
  | received
  | lexed
  | parsed
  | validated
  | stored
  | done
  | rejected
  deriving DecidableEq

namespace Stage

/-- All stages, in the order in which they are passed. -/
def all : List Stage :=
  [received, lexed, parsed, validated, stored, done, rejected]

/-- The name of a stage. -/
def name : Stage → String
  | received => "received"
  | lexed => "lexed"
  | parsed => "parsed"
  | validated => "validated"
  | stored => "stored"
  | done => "done"
  | rejected => "rejected"

instance : ToString Stage := ⟨name⟩

/-- The stage of a name. -/
def ofName? (s : String) : Option Stage :=
  all.find? fun stage => stage.name = s

theorem ofName?_name (stage : Stage) : ofName? stage.name = some stage := by
  cases stage <;> decide

/-- The JSON value of a stage. -/
def toJson (stage : Stage) : Json :=
  .string stage.name

/-- The stage that a value is. -/
def ofWritten? (room : Nat) (w : Json.Written) : Option Stage := do
  let (name, content) ← w.case? room
  if Json.Written.isEmptyCase content then ofName? name else none

end Stage

end Formulary
