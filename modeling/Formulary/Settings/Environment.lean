import Formulary.Settings
import Formulary.Text.Blank

/-!
# Settings from the environment

Variables of the environment that are set override single settings, one after the other. A variable
that makes no sense stops this; what those before it have set stays set.
-/

namespace Formulary.Settings

/-- A variable of the environment: its name, and what its value sets. -/
structure Variable where
  name : String
  set : Settings → String → Except Reason Settings

/-- A text without the blanks around it, in lower case as far as it is ASCII. -/
def folded (text : String) : String :=
  (Text.trim text).map Char.toLower

/-- The duration that a text is, blanks around it aside. -/
def duration (text : String) : Except Reason Duration :=
  (Duration.ofText (Text.trim text)).mapError .notADuration

/-- The variables, in the order in which they are looked at. -/
def environmentVariables : List Variable := [
  ⟨"REP_STORE_BACKEND", fun s text =>
    match Backend.ofName? (folded text) with
    | some backend => .ok { s with backend }
    | none => .error (.unknownBackend (folded text))⟩,
  ⟨"REP_STORE_PATH", fun s path => .ok { s with path }⟩,
  ⟨"REP_SETTLE_DELAY", fun s text => do
    .ok { s with settleDelay := some (← duration text) }⟩,
  ⟨"REP_MAX_DEPTH", fun s text =>
    match Text.word64? (Text.trim text).toList with
    | some maxDepth => .ok { s with maxDepth }
    | none => .error .notADepth⟩,
  ⟨"REP_POLL_INTERVAL", fun s text => do
    .ok { s with patience := { s.patience with pollInterval := ← duration text } }⟩,
  ⟨"REP_VISIBILITY_TIMEOUT", fun s text => do
    .ok { s with patience := { s.patience with timeout := ← duration text } }⟩,
  ⟨"REP_LOG_LEVEL", fun s text => .ok { s with level := folded text }⟩]

/-- The settings after the variables, and whether all of them made sense. -/
def override (environment : String → Option String) :
    List Variable → Settings → Settings × Except Fault Unit
  | [], s => (s, .ok ())
  | v :: vs, s =>
    match environment v.name with
    | none => override environment vs s
    | some text =>
      match v.set s text with
      | .ok s => override environment vs s
      | .error reason => (s, .error (.invalid v.name reason))

/-- The settings with those of the environment, if these make sense. -/
def ofEnvironment (environment : String → Option String) (s : Settings) : Except Fault Settings :=
  match override environment environmentVariables s with
  | (s, .ok ()) => .ok s
  | (_, .error fault) => .error fault

end Formulary.Settings
