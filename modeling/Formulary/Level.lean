/-!
# Levels

How much an event matters. Settings name the lowest level that is shown.
-/

namespace Formulary

/-- How much an event matters, most first. -/
inductive Level
  | error
  | warn
  | info
  | debug
  | trace
  deriving DecidableEq

namespace Level

/-- All levels, most important first. -/
def all : List Level := [error, warn, info, debug, trace]

/-- The name of a level in settings. -/
def name : Level → String
  | error => "error"
  | warn => "warn"
  | info => "info"
  | debug => "debug"
  | trace => "trace"

/-- The name of a level in front of an event. -/
def label : Level → String
  | error => "ERROR"
  | warn => "WARN"
  | info => "INFO"
  | debug => "DEBUG"
  | trace => "TRACE"

/-- The level of a name. -/
def ofName? (s : String) : Option Level :=
  all.find? fun level => level.name = s

theorem ofName?_name (level : Level) : ofName? level.name = some level := by
  cases level <;> decide

/-- The place of a level among all. -/
def rank (level : Level) : Nat :=
  all.findIdx (· = level)

end Level

end Formulary
