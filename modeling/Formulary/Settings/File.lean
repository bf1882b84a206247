import Formulary.Settings.Environment
import Formulary.Toml.Read

/-!
# Settings from a file

A settings file is a TOML text with up to four tables. What is absent keeps its value, what is
unknown is skipped. A table may also be given as an array of its fields in order.
-/

namespace Formulary

namespace Toml

/-- The fields of a value that is a record with the given names. A time has none of them. -/
def record? (names : List String) : Toml → Option Entries
  | table _ entries => some entries
  | array items => some (names.zip items)
  | time _ => some []
  | _ => none

/-- The text that a value is. -/
def text? : Toml → Option String
  | string s => some s
  | _ => none

/-- The natural number that a value is. -/
def natural? : Toml → Option Nat
  | integer n => if 0 ≤ n then some n.toNat else none
  | _ => none

/-- The name that a value is: a text, or the only key of a table, with nothing under it. -/
def name? : Toml → Option String
  | string s => some s
  | table _ [(key, array [])] | table _ [(key, table _ [])] => some key
  | _ => none

end Toml

namespace Settings

/-- The value of a field, which is `absent` if it is not there. -/
def field {α : Type} (entries : Toml.Entries) (name : String) (absent : α)
    (read : Toml → Except Fault α) : Except Fault α :=
  match entries.lookup name with
  | none => .ok absent
  | some v => read v

/-- Reads a value, in a file with the given text, that must be there in the form that `read`
    knows. -/
def must {α : Type} (text : String) (read : Toml → Option α) (v : Toml) : Except Fault α :=
  match read v with
  | some a => .ok a
  | none => .error (.malformedFile text)

/-- Reads the value of a key as a duration. -/
def durationOf (text key : String) (v : Toml) : Except Fault Duration := do
  match Duration.ofText (← must text Toml.text? v) with
  | .ok d => .ok d
  | .error .overflow => .error (.invalid key (.notADuration .overflow))
  | .error _ => .error (.malformedFile text)

/-- The settings of a document that was read from a text; what it leaves out is as in `s`. -/
def ofToml (s : Settings) (text : String) (document : Toml.Entries) : Except Fault Settings := do
  let table (name : String) (fields : List String) :=
    field document name [] (must text (Toml.record? fields))
  let parser ← table "parser" ["max_depth"]
  let maxDepth ← field parser "max_depth" s.maxDepth (must text Toml.natural?)
  let store ← table "store" ["backend", "path", "settle_delay"]
  let backend ← field store "backend" s.backend (must text fun v => v.name?.bind Backend.ofName?)
  let path ← field store "path" s.path (must text Toml.text?)
  let settleDelay ← field store "settle_delay" s.settleDelay fun v => do
    .ok (some (← durationOf text "store.settle_delay" v))
  let visibility ← table "visibility" ["poll_interval", "timeout"]
  let pollInterval ← field visibility "poll_interval" s.patience.pollInterval
    (durationOf text "visibility.poll_interval")
  let timeout ← field visibility "timeout" s.patience.timeout
    (durationOf text "visibility.timeout")
  let logging ← table "logging" ["level"]
  let level ← field logging "level" s.level (must text Toml.text?)
  .ok ⟨maxDepth, backend, path, settleDelay, ⟨pollInterval, timeout⟩, level⟩

/-- The settings of a text; what it leaves out is as in `s`. -/
def ofText (s : Settings) (text : String) : Except Fault Settings :=
  match Toml.read? text with
  | some document => s.ofToml text document
  | none => .error (.malformedFile text)

/-- The settings of a file; what it leaves out is as in `s`. -/
def ofFile (s : Settings) (disk : Disk) (path : String) : Except Fault Settings :=
  match disk.readText path with
  | .ok text => s.ofText text
  | .error fault => .error (.unreadableFile fault)

/-- The settings to go by: those of the file, if there is a path, then those of the environment,
    and all of them valid. -/
def load (environment : String → Option String) (disk : Disk) (path : Option String) :
    Except Fault Settings := do
  let s := standard (usualPath environment)
  let s ←
    match path with
    | some path => s.ofFile disk path
    | none => .ok s
  let s ← ofEnvironment environment s
  s.validate
  .ok s

end Settings

end Formulary
