import Formulary.Disk
import Formulary.Duration.Read
import Formulary.Expr.Parse
import Formulary.Level
import Formulary.Wording

/-!
# Settings

What can be set about reading programs, storing entries, waiting for them and reporting events.
Settings start from defaults and are changed by a file (`Formulary.Settings.File`) and by the
environment (`Formulary.Settings.Environment`); `validate` says whether the outcome makes sense.
-/

namespace Formulary

/-- Where entries are kept. -/
inductive Backend
  | memory
  | file
  deriving DecidableEq

/-- The name of a backend in settings. -/
def Backend.name : Backend → String
  | memory => "memory"
  | file => "file"

/-- The backend of a name. -/
def Backend.ofName? (s : String) : Option Backend :=
  [memory, file].find? fun b => b.name = s

/-- How often to look for an entry that is not visible yet, and for how long. -/
structure Patience where
  pollInterval : Duration
  timeout : Duration
  deriving DecidableEq

/-- Looks exactly once. -/
def Patience.once : Patience := ⟨0, 0⟩

/-- All that can be set. -/
structure Settings where
  /-- The greatest number of nested forms of a program. -/
  maxDepth : Nat
  backend : Backend
  /-- The path of the folder of the file backend. -/
  path : String
  /-- How long a new entry stays hidden, if at all. -/
  settleDelay : Option Duration
  patience : Patience
  /-- The name of the level of the least important events that are shown. -/
  level : String
  deriving DecidableEq

namespace Settings

/-- The settings that hold if nothing is set, given the path of the usual folder. -/
def standard (path : String) : Settings :=
  ⟨Expr.defaultMaxDepth, .file, path, none, ⟨.millis 50, .secs 5⟩, "info"⟩

/-- The usual folder for entries, given an environment: a folder among the user's data. -/
def usualPath (environment : String → Option String) : String :=
  let absolute (p : String) := p.toList.head? = some '/'
  let data :=
    match (environment "XDG_DATA_HOME").filter absolute, (environment "HOME").filter (· ≠ "") with
    | some path, _ => path
    | none, some home => Disk.join home ".local/share"
    | none, none => "."
  Disk.join (Disk.join data "rep-interchange") "entries"

/-- What is wrong with a single setting. -/
inductive Reason
  | unknownBackend (given : String)
  | notADuration (fault : Duration.Fault)
  | notADepth
  | depthOutOfRange
  | noFolder
  | noPollInterval
  | unknownLevel
  deriving DecidableEq

/-- What is said of a setting that is wrong. -/
def Reason.message : Reason → String
  | unknownBackend given =>
    "unknown store backend '" ++ given ++ "', expected memory or file"
  | notADuration fault => fault.message
  | notADepth => "Invalid nesting depth"
  | depthOutOfRange => "Must be between 1 and " ++ toString Expr.greatestMaxDepth
  | noFolder => "A directory is required for the file backend"
  | noPollInterval => "Must be > 0 when a timeout is set"
  | unknownLevel => "Must be one of: " ++ ", ".intercalate (Level.all.map Level.name)

/-- Why there are no settings to go by. -/
inductive Fault
  | unreadableFile (fault : Disk.Fault)
  /-- The text of the file is not what it should be. -/
  | malformedFile (text : String)
  | invalid (key : String) (reason : Reason)
  deriving DecidableEq

/-- What is said of a fault. -/
def Fault.message [Wording] : Fault → String
  | unreadableFile fault => "IO error reading config file: " ++ fault.message
  | malformedFile text => "Configuration parsing error: " ++ Wording.notToml text
  | invalid key reason => "Invalid configuration value for " ++ key ++ ": " ++ reason.message

/-- Whether a program that comes to such a fault breaks off without a word. -/
def Fault.breaksOff : Fault → Bool
  | invalid _ (.notADuration .overflow) => true
  | _ => false

/-- Settings must allow some nesting, name a folder if entries go to files, look again after some
    time if they wait at all, and name a level. -/
def validate (s : Settings) : Except Fault Unit :=
  if s.maxDepth = 0 ∨ Expr.greatestMaxDepth < s.maxDepth then
    .error (.invalid "parser.max_depth" .depthOutOfRange)
  else if s.backend = .file ∧ s.path = "" then .error (.invalid "store.path" .noFolder)
  else if 0 < s.patience.timeout ∧ s.patience.pollInterval = 0 then
    .error (.invalid "visibility.poll_interval" .noPollInterval)
  else if (Level.ofName? s.level).isNone then .error (.invalid "logging.level" .unknownLevel)
  else .ok ()

end Settings

end Formulary
