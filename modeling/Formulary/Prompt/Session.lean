import Formulary.Disk
import Formulary.Wire.Write

/-!
# Sessions at the prompt

What a prompt remembers from line to line: the digest of the entry created last, and the file that
the session is recorded in, if it is. A transcript has one line of JSON for each command and each
output; it is added to the end of its file, whatever stands there.
-/

namespace Formulary.Prompt

/-- What is remembered from line to line. -/
structure Session where
  /-- The path of the transcript. -/
  recording : Option String
  /-- The text of the digest of the entry created last. -/
  lastHash : Option String
  deriving DecidableEq

namespace Session

/-- A session that has just begun. -/
def initial : Session := ⟨none, none⟩

/-- The digest to use when this one, or none, is given. -/
def resolve (s : Session) (given : Option String) : Option String :=
  given <|> s.lastHash

/-- The session with a digest created last. -/
def created (s : Session) (hash : String) : Session :=
  { s with lastHash := some hash }

/-- Starts to record in the file of a path, which is made if there is none. -/
def start (s : Session) (disk : Disk) (path : String) : Except Disk.Fault (Session × Disk) := do
  let disk ← disk.append path []
  .ok ({ s with recording := some path }, disk)

/-- Stops recording. -/
def stop (s : Session) : Session :=
  { s with recording := none }

/-- The disk with one more line in the transcript, if there is one. What cannot be written is
    lost. -/
def record (s : Session) (disk : Disk) (line : Json) : Disk :=
  match s.recording with
  | none => disk
  | some path =>
    match disk.append path (Bytes.ofText (line.compact ++ "\n")) with
    | .ok disk => disk
    | .error _ => disk

/-- Records a command that was given at the time of the stamp. -/
def recordCommand (s : Session) (disk : Disk) (stamp command : String) : Disk :=
  s.record disk (Wire.CommandLog.toJson ⟨stamp, command⟩)

/-- Records an output that was given at the time of the stamp. -/
def recordOutput (s : Session) (disk : Disk) (stamp output : String) : Disk :=
  s.record disk (Wire.OutputLog.toJson ⟨stamp, output⟩)

end Session

end Formulary.Prompt
