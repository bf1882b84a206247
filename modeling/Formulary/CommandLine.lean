import Formulary.CommandLine.Invocation
import Formulary.Ending
import Formulary.Json.Write
import Formulary.Registry
import Formulary.Settings.File
import Formulary.Wire.Record
import Formulary.Wire.Write

/-!
# The command line

The program does one thing and ends: it checks a program, stores one, shows an entry or lists all.
It says how it went by its exit code, too: zero if all is well, one if what it was asked for failed
or a program was rejected, two if it was not asked well.
-/

namespace Formulary.CommandLine

/-- What comes of a run of the program. -/
structure Outcome where
  ending : Ending
  output : String
  disk : Disk
  /-- What happened, as far as the settings want it shown. -/
  log : List Event
  /-- When the run ends, which is later than it began if it had to wait. -/
  now : Instant

/-- The text for `--version`. -/
def versionText : String := "rep 0.3.0"

/-- The text for `--help`. -/
def helpText : String := "\n".intercalate [
  "Usage: rep [--config <FILE>] <COMMAND>",
  "",
  "Commands:",
  "  check   Parse and validate a program without storing it",
  "  create  Store a program as an interchange entry",
  "  get     Fetch an entry by hash",
  "  list    List stored entry hashes"]

/-- What keeps a command from being carried out. -/
inductive Failure
  | unreadable (path : String)
  | noSource
  | badOperand (text : String)
  | badHash (text : String)
  | opening (error : Registry.OpeningError)
  | rejected (rejection : Rejection)

/-- What is said of a failure. -/
def Failure.message [Wording] : Failure → String
  | unreadable path => "Failed to read " ++ path
  | noSource => "Either --file or --content must be provided"
  | badOperand text => "Invalid operand hash " ++ text
  | badHash text => "Invalid hash " ++ text
  | opening e => e.message
  | rejected r => r.message

/-- What a command gives: whether all is well, and the text to show. -/
abbrev Result := Bool × String

/-- A command that is being carried out, on an empty store in memory until it opens another one. -/
abbrev Carried (α : Type) := ExceptT Failure Store.Run α

/-- A part of a command that changes nothing. -/
def orFail {α : Type} (part : Except Failure α) : Carried α :=
  ExceptT.mk (pure part)

/-- The program at a source. -/
def Source.read (disk : Disk) : Source → Except Failure String
  | file path => (disk.readText path).mapError fun _ => .unreadable path
  | text content => .ok content
  | nowhere => .error .noSource

/-- The digest that a text denotes. -/
def digest (failure : String → Failure) (text : String) : Except Failure Digest :=
  (Digest.ofText text).mapError fun _ => failure text

/-- The report on a program that was checked. -/
def report [Wording] : Except Rejection Expr → Result
  | .ok tree => (true, "accepted\n" ++ tree.render ++ "\n")
  | .error r => (false, "rejected at " ++ r.reached.name ++ "\n" ++ r.message ++ "\n")

/-- Opens the registry that the settings ask for, and its store. -/
def openRegistry (settings : Settings) : Carried Registry := do
  let s ← get
  match (Registry.opened settings s.now).run.run s.disk with
  | (.ok (registry, store), _) =>
    set store
    return registry
  | (.error e, disk) =>
    set { s with disk }
    throw (.opening e)

/-- A request to a registry, as a part of a command. -/
def ask {α : Type} (request : Registry.Request α) : Carried α :=
  ExceptT.adapt Failure.rejected request

/-- Carries out a command. -/
def carryOut [Wording] (settings : Settings) : Command → Carried Result
  | .check source => do
    let text ← orFail (source.read (← get).disk)
    return report (← liftM ((Registry.ofSettings settings).check text).run)
  | .create source operands => do
    let text ← orFail (source.read (← get).disk)
    let operands ← orFail (operands.mapM (digest .badOperand))
    let registry ← openRegistry settings
    let d ← ask (registry.create text operands)
    return (true, d.toText ++ "\n")
  | .get hash wait => do
    let d ← orFail (digest .badHash hash)
    let registry ← openRegistry settings
    let entry ← ask (if wait then registry.await d else Registry.fetch d)
    return (true, (Wire.EntryRecord.ofEntry d entry).toJson.pretty ++ "\n")
  | .list => do
    let _ ← openRegistry settings
    let ds ← ask Registry.digests
    return (true, String.join (ds.map fun d => d.toText ++ "\n"))

/-- The events that matter enough to be shown under a setting. -/
def shown (level : String) (log : List Event) : List Event :=
  match Level.ofName? level with
  | some least => log.filter fun e => e.level.rank ≤ least.rank
  | none => []

/-- What a run gives in the end, given what carrying out the command gave. -/
def conclude [Wording] : Option (Except Failure Result) → Ending × String
  | some (.ok (true, text)) => (.well, text)
  | some (.ok (false, text)) => (⟨1, ""⟩, text)
  | some (.error failure) => (.failed 1 failure.message, "")
  | none => (.brokenOff, "")

/-- Runs the program. -/
def run [Wording] (environment : String → Option String) (disk : Disk) (now : Instant)
    (arguments : List String) : Outcome :=
  match invocation arguments with
  | .error .misused =>
    ⟨⟨2, "error: the arguments are not understood\n"⟩, "", disk, [], now⟩
  | .error .help => ⟨.well, helpText ++ "\n", disk, [], now⟩
  | .error .version => ⟨.well, versionText ++ "\n", disk, [], now⟩
  | .ok asked =>
    match Settings.load environment disk asked.config with
    | .error fault =>
      ⟨if fault.breaksOff then .brokenOff else .failed 2 fault.message, "", disk, [], now⟩
    | .ok settings =>
      let (result, store) :=
        (carryOut settings asked.command).run.run.run (.inMemory none disk now)
      let (ending, output) := conclude result
      ⟨ending, output, store.disk, shown settings.level store.log, store.now⟩

end Formulary.CommandLine
