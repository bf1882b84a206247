import Formulary.Client
import Formulary.Ending
import Formulary.Prompt.Command
import Formulary.Prompt.Session
import Formulary.Prompt.Typing
import Formulary.Server
import Formulary.Settings.File
import Formulary.Text.Lines

/-!
# The prompt

A prompt takes lines one by one, after editing (`Formulary.Prompt.Typing`). A plain line is a
program to check, a line that starts with a colon a command. What needs the registry goes to a line
server as a client's call. Every line that is not blank has one reply; the transcript, if there is
one, gets the line and, unless it ends the session, the reply.

`serve` is the same server without a prompt, for other clients.
-/

namespace Formulary.Prompt

/-- The reply to a line. -/
inductive Reply
  | nothing
  | output (text : String)
  | error (text : String)
  | quit
  deriving DecidableEq

/-- How things stand between a prompt and its server. -/
inductive Connection
  | serving (registry : Registry)
  /-- The server has ended, and no call has shown it yet. -/
  | ended
  | broken

/-- A prompt between two lines. -/
structure State where
  session : Session
  /-- The number of calls so far. -/
  calls : Nat
  connection : Connection
  /-- The store of the server. -/
  store : Store

/-- Something done at the prompt, which may fail with a text. -/
abbrev Action (α : Type) := ExceptT String (StateM State) α

/-- Calls the server. Each call has the next number. The first call to a server that has ended, or
    ends on it, finds no answer, and those after it no server. -/
def call [Wording] {α : Type} (c : Client.Call α) : Action α := do
  let s ← get
  let id := s.calls + 1
  match s.connection with
  | .broken =>
    set { s with calls := id }
    throw Client.Failure.broken.message
  | .ended =>
    set { s with calls := id, connection := .broken }
    throw Client.Failure.closed.message
  | .serving registry =>
    match (Server.answer registry (c.line id)).run.run s.store with
    | (none, store) =>
      set { s with calls := id, connection := .broken, store }
      throw Client.Failure.closed.message
    | (some line, store) =>
      set { s with calls := id, store }
      match c.outcome line with
      | .ok a => return a
      | .error failure => throw failure.message

/-- The digest to use when this one, or none, is given. -/
def resolve (given : Option String) : Action String := do
  match (← get).session.resolve given with
  | some hash => return hash
  | none => throw "No hash given and nothing created yet"

/-- Obeys a command and gives the text to show. -/
def obey [Wording] : Command → Action String
  | .create source => do
    let hash ← call (Client.create source [])
    modify fun s => { s with session := s.session.created hash }
    return hash
  | .get hash => do return (← call (Client.fetch (← resolve hash))).toJson.pretty
  | .wait hash => do return (← call (Client.await (← resolve hash))).toJson.pretty
  | .list => do
    let hashes ← call Client.list
    return if hashes.isEmpty then "(no entries)" else "\n".intercalate hashes
  | .recordOn path => do
    let s ← get
    match s.session.start s.store.disk path with
    | .error fault => throw fault.message
    | .ok (session, disk) =>
      set { s with session, store := { s.store with disk } }
      return "Recording to " ++ path
  | .recordOff => do
    modify fun s => { s with session := s.session.stop }
    return "Stopped recording."
  | .help => return Command.helpText
  | .quit => return ""

/-- What is shown of the result of a check. -/
def checkText (r : Wire.CheckResult) : String :=
  if r.accepted then "accepted: " ++ r.canonical.getD ""
  else "rejected at " ++ r.stage.getD "" ++ ": " ++ r.error.getD ""

/-- Whether a line is a command. -/
def isCommand (line : String) : Bool :=
  (Text.trimStart line.toList).head? = some ':'

/-- The text that replies to a line, and `none` to the line that ends the session. -/
def respond [Wording] (line : String) : Action (Option String) := do
  if isCommand line then
    match Command.ofLine line with
    | .error fault => throw fault.message
    | .ok .quit => return none
    | .ok command => return some (← obey command)
  else return some (checkText (← call (Client.check line)))

/-- Changes the disk by what the session records, at the time that the stamp is made for. -/
def recordWith (record : Session → Disk → String → Disk) (stamp : Instant → String) :
    StateM State Unit :=
  modify fun s =>
    { s with store := { s.store with disk := record s.session s.store.disk (stamp s.store.now) } }

/-- Takes a line; `stamp` writes the time. -/
def step [Wording] (stamp : Instant → String) (line : String) : StateM State Reply := do
  if Text.isAllBlank line then return .nothing
  recordWith (fun session disk t => session.recordCommand disk t line) stamp
  match ← (respond line).run with
  | .ok none => return .quit
  | .ok (some text) =>
    recordWith (fun session disk t => session.recordOutput disk t text) stamp
    return .output text
  | .error text =>
    recordWith (fun session disk t => session.recordOutput disk t text) stamp
    return .error text

/-- Takes lines until one ends the session, and gives the replies. -/
def run [Wording] (stamp : Instant → String) : List String → StateM State (List Reply)
  | [] => return []
  | line :: lines => do
    match ← step stamp line with
    | .quit => return [.quit]
    | reply => return reply :: (← run stamp lines)

/-- The lines that have been typed, after editing, up to the one on which the prompt breaks off, and
    whether there is one. -/
def entered : List String → List String × Ending
  | [] => ([], .well)
  | typed :: rest =>
    match edit typed with
    | none => ([], .brokenOff)
    | some line =>
      let (lines, ending) := entered rest
      (line :: lines, ending)

/-- Takes lines as they have been typed, and gives the replies and how the prompt ends. A session
    that has ended before a line does not break off on it. -/
def runTyped [Wording] (stamp : Instant → String) (typed : List String) :
    StateM State (List Reply × Ending) := do
  let (lines, ending) := entered typed
  let replies ← run stamp lines
  return (replies, if .quit ∈ replies then .well else ending)

/-! ## Programs -/

/-- The line that a session starts with. -/
def greeting : String := "rep_interchange REPL (:help for commands)"

/-- The argument that asks for a server without a prompt. -/
def stdioOption : String := "--stdio"

/-- The argument that the path of a settings file follows. -/
def configOption : String := "--config"

/-- The path of the settings file among arguments: what follows the first one that announces it. -/
def configPath? : List String → Option String
  | [] => none
  | arg :: args => if arg = configOption then args.head? else configPath? args

/-- The registry and the store that a program with such arguments works on, on a disk that stays
    changed also if they cannot be opened. -/
def opened (environment : String → Option String) (arguments : List String) (now : Instant) :
    ExceptT Registry.OpeningError (StateM Disk) (Registry × Store) := do
  let disk ← get
  let settings ← ExceptT.mk (pure
    ((Settings.load environment disk (configPath? arguments)).mapError .settings))
  Registry.opened settings now

/-- How a program ends that could not open them. -/
def notOpened [Wording] (e : Registry.OpeningError) : Ending :=
  if e.breaksOff then .brokenOff else .failed 1 e.message

/-- The prompt before the first line, and how its server has ended, if it could not open the
    registry. -/
def initial [Wording] (environment : String → Option String) (arguments : List String) (disk : Disk)
    (now : Instant) : State × Option Ending :=
  match (opened environment arguments now).run.run disk with
  | (.ok (registry, store), _) => (⟨.initial, 0, .serving registry, store⟩, none)
  | (.error e, disk) => (⟨.initial, 0, .ended, .inMemory none disk now⟩, some (notOpened e))

/-- Answers the lines that are not blank, until the server breaks off on one of them. -/
def serve [Wording] (registry : Registry) : List String → StateM Store (List String × Ending)
  | [] => return ([], .well)
  | line :: lines => do
    if Text.isAllBlank line then serve registry lines
    else
      match ← (Server.answer registry line).run with
      | none => return ([], .brokenOff)
      | some answer => do
        let (answers, ending) ← serve registry lines
        return (answer :: answers, ending)

end Formulary.Prompt
