import Formulary.CommandLine
import Formulary.Prompt
import Std.Time

/-!
# The program

Reads and writes for `Formulary.CommandLine` and `Formulary.Prompt`, which work on a `Disk`: the
files that a run may touch are copied from the real disk to it before, and what has changed is
copied back after. Where the clock has moved, the program sleeps as long. So what others do to the
disk while a line is being answered is seen from the next line on.

The first argument `prompt` starts a session; any other arguments are those of the command line.
-/

namespace Formulary.Main

/-- The words of this program, where others would use those of a library. -/
local instance : Wording := ⟨fun _ _ => "unreadable JSON", fun _ => "unreadable TOML"⟩

/-! ## The disk -/

/-- The path of a location. -/
def pathOf (l : Location) : String :=
  "/" ++ "/".intercalate l

/-- Copies what stands at a location of the real disk, but not what is below it. -/
def copyIn (disk : Disk) (l : Location) : IO Disk := do
  try
    let path ← IO.FS.realPath (pathOf l)
    if ← path.isDir then return disk.put l .folder
    return disk.put l (.file (← IO.FS.readBinFile path).data.toList)
  catch _ => return disk

/-- Copies what stands directly in a folder of the real disk. -/
def copyChildren (disk : Disk) (l : Location) : IO Disk := do
  try
    let path ← IO.FS.realPath (pathOf l)
    (← path.readDir).foldlM (fun disk child => copyIn disk (l ++ [child.fileName])) disk
  catch _ => return disk

/-- Copies what a path leads to on the real disk, with all folders on the way and, if it is a folder
    itself, what stands directly in it. -/
def copyPath (disk : Disk) (path : String) : IO Disk := do
  let mut disk := disk
  let mut l := disk.startOf path
  for name in Disk.parts path do
    if name = ".." then l := l.dropLast
    else if name ≠ "." then
      l := l ++ [name]
      disk ← copyIn disk l
  if disk.find? l = some .folder then copyChildren disk l else return disk

/-- Copies what paths lead to on the real disk. -/
def copyPaths (disk : Disk) (paths : List String) : IO Disk :=
  paths.foldlM copyPath disk

/-- The disk with the working folder on it, and nothing else. -/
def workingDisk : IO Disk := do
  let here := Disk.parts (← IO.currentDir).toString
  let onTheWay := (List.range (here.length + 1)).map here.take
  return { ← onTheWay.foldlM copyIn Disk.empty with here }

/-- Adds bytes at the end of a real file. -/
def appendFile (path : String) (b : Bytes) : IO Unit :=
  IO.FS.withFile path .append fun file => file.write b.toByteArray

/-- Copies what has changed to the real disk. Files are only ever added, or added to. -/
def copyBack (before after : Disk) : IO Unit :=
  for (l, node) in after.nodes do
    match node, before.find? l with
    | .folder, none => IO.FS.createDirAll (pathOf l)
    | .file b, none => appendFile (pathOf l) b
    | .file b, some (.file old) =>
      if old.length < b.length then appendFile (pathOf l) (b.drop old.length)
    | _, _ => pure ()

/-! ## Environment and time -/

/-- The variables of the environment that settings come from. -/
def environment : IO (String → Option String) := do
  let names := ["XDG_DATA_HOME", "HOME"] ++ Settings.environmentVariables.map (·.name)
  let values ← names.filterMapM fun name => do
    return (← IO.getEnv name).map (name, ·)
  return fun name => values.lookup name

/-- The number of milliseconds to sleep at a time, at most. -/
def longestSleep : Nat := Nat.pow 2 31

/-- Sleeps from one moment to a later one. -/
def sleepBetween (before after : Instant) : IO Unit := do
  let pause := (after - before) / Duration.millis 1
  for _ in List.range (pause / longestSleep) do IO.sleep longestSleep.toUInt32
  IO.sleep (pause % longestSleep).toUInt32

/-- The present moment. -/
def present : IO Instant :=
  IO.monoNanosNow

/-- Writes the time of a moment, given that of an earlier one. -/
def stamp (start : Instant) (time : Std.Time.Timestamp) (t : Instant) : String :=
  (Std.Time.DateTime.ofTimestamp (time + Std.Time.Nanosecond.Offset.ofNat (t - start))
    Std.Time.TimeZone.ZoneRules.UTC).format "uuuu-MM-dd'T'HH:mm:ss.SSSSSSSSSxxx"

/-- Shows what is wrong and gives the exit code. -/
def finish (ending : Ending) : IO UInt32 := do
  IO.eprint ending.errors
  return ending.code.toUInt32

/-- Shows events. -/
def showLog (log : List Event) : IO Unit :=
  log.forM fun e => IO.eprintln e.toText

/-! ## The command line -/

/-- Runs the command line. -/
def commandLine (arguments : List String) : IO UInt32 := do
  let environment ← environment
  let named := ((CommandLine.invocation arguments).toOption.map (·.paths)).getD []
  let disk ← copyPaths (← workingDisk) named
  let config := (CommandLine.invocation arguments).toOption.bind (·.config)
  let store := (Settings.load environment disk config).toOption.map (·.path)
  let disk ← copyPaths disk store.toList
  let now ← present
  let outcome := CommandLine.run environment disk now arguments
  copyBack disk outcome.disk
  sleepBetween now outcome.now
  showLog outcome.log
  IO.print outcome.output
  finish outcome.ending

/-! ## Sessions -/

/-- The store as the real disk has it now, at the present time. -/
def refreshed (paths : List String) (store : Store) : IO Store := do
  let disk ← copyPaths { store.disk with nodes := (← workingDisk).nodes } paths
  return { store with disk, now := ← present, log := [] }

/-- Makes what has happened to a store real. -/
def settle (level : String) (before after : Store) : IO Unit := do
  copyBack before.disk after.disk
  sleepBetween before.now after.now
  showLog (CommandLine.shown level after.log)

/-- A line of the input without its line feed, unless the input has ended. -/
def nextLine? (input : IO.FS.Stream) : IO (Option String) := do
  return (Text.lines (← input.getLine)).head?

/-- Answers lines until the input ends or the server breaks off, and gives the exit code. -/
partial def serveLines (input : IO.FS.Stream) (settings : Settings) (registry : Registry)
    (store : Store) : IO UInt32 := do
  let some line ← nextLine? input | return 0
  let store ← refreshed [settings.path] store
  let ((answers, ending), after) := (Prompt.serve registry [line]).run store
  settle settings.level store after
  answers.forM IO.println
  (← IO.getStdout).flush
  if ending = .well then serveLines input settings registry after else finish ending

/-- The paths of the files that a line at the prompt may touch. -/
def pathsOf (settings : Settings) (session : Prompt.Session) (line : String) : List String :=
  let opened :=
    match Prompt.Command.ofLine line with
    | .ok (.recordOn path) => [path]
    | _ => []
  settings.path :: session.recording.toList ++ opened

/-- A line as it has been typed, unless the input has ended or cannot be read. -/
def typedLine? (input : IO.FS.Stream) : IO (Option String) := do
  try nextLine? input catch _ => return none

/-- Takes lines until one ends the session, the input ends or the prompt breaks off, and gives the
    exit code. -/
partial def takeLines (input : IO.FS.Stream) (settings : Settings) (stamp : Instant → String)
    (state : Prompt.State) : IO UInt32 := do
  if ← input.isTty then IO.print ">> "
  (← IO.getStdout).flush
  let some typed ← typedLine? input | return 0
  let some line := Prompt.edit typed | finish .brokenOff
  let store ← refreshed (pathsOf settings state.session line) state.store
  let (reply, after) := (Prompt.step stamp line).run { state with store }
  settle settings.level store after.store
  match reply with
  | .quit => return 0
  | .nothing => pure ()
  | .output text => IO.println text
  | .error text => IO.eprint (Ending.errorLine text)
  takeLines input settings stamp after

/-- Runs a session, or a server without a prompt. -/
def session (arguments : List String) : IO UInt32 := do
  let environment ← environment
  let config := Prompt.configPath? arguments
  let disk ← copyPaths (← workingDisk) config.toList
  let settings := ((Settings.load environment disk config).toOption).getD (.standard "")
  let disk ← copyPaths disk [settings.path]
  let input ← IO.getStdin
  let now ← present
  if arguments.contains Prompt.stdioOption then
    match (Prompt.opened environment arguments now).run.run disk with
    | (.error e, after) =>
      copyBack disk after
      finish (Prompt.notOpened e)
    | (.ok (registry, store), _) =>
      settle settings.level (.inMemory none disk now) store
      serveLines input settings registry store
  else
    let (state, ended) := Prompt.initial environment arguments disk now
    settle settings.level (.inMemory none disk now) state.store
    if let some ending := ended then IO.eprint ending.errors
    let time ← Std.Time.Timestamp.now
    IO.println Prompt.greeting
    takeLines input settings (stamp now time) state

end Formulary.Main

/-- Runs a session or the command line. -/
def main (arguments : List String) : IO UInt32 :=
  match arguments with
  | "prompt" :: rest => Formulary.Main.session rest
  | _ => Formulary.Main.commandLine arguments
