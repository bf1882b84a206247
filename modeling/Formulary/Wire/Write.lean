import Formulary.Json.Write
import Formulary.Wire

/-!
# Writing messages

The members of a message stand in a fixed order; a part that is absent is left out.
-/

namespace Formulary.Wire

open Formulary (Json)

/-- A member that is left out if there is nothing to put in it. -/
def optionalMember (name : String) (v : Option Json) : List (String × Json) :=
  (v.map (name, ·)).toList

/-- The JSON value of a request. -/
def Request.toJson (r : Request) : Json :=
  .object [("id", .int r.id), ("method", .string r.method), ("params", r.params)]

/-- The JSON value of a response. -/
def Response.toJson (r : Response) : Json :=
  .object [("id", .int r.id), ("result", r.result)]

/-- The JSON value of an error. -/
def ErrorObject.toJson (e : ErrorObject) : Json :=
  .object ([("code", .int e.code), ("message", .string e.message)] ++ optionalMember "data" e.data)

/-- The JSON value of an answer to a request that failed. -/
def ErrorResponse.toJson (r : ErrorResponse) : Json :=
  .object [("id", .int r.id), ("error", r.error.toJson)]

/-- The JSON value of a line of a server. -/
def ServerMessage.toJson : ServerMessage → Json
  | error r => r.toJson
  | response r => r.toJson

/-- The JSON value of parameters. -/
def TestOutputParams.toJson (p : TestOutputParams) : Json :=
  .object [("params_string", .string p.source)]

/-- The JSON value of the result of a check. -/
def CheckResult.toJson (r : CheckResult) : Json :=
  .object ([("accepted", .bool r.accepted)] ++
    optionalMember "canonical" (r.canonical.map .string) ++
    optionalMember "error" (r.error.map .string) ++ optionalMember "stage" (r.stage.map .string))

/-- The JSON value of parameters. -/
def CreateEntryParams.toJson (p : CreateEntryParams) : Json :=
  .object [("expr", .string p.source), ("args", .array (p.operands.map .string))]

/-- The JSON value of parameters. -/
def EntryRef.toJson : EntryRef → Json
  | bare hash => .string hash
  | named hash => .object [("hash", .string hash)]

/-- The JSON value of an entry that is sent. -/
def EntryRecord.toJson (r : EntryRecord) : Json :=
  .object [("hash", .string r.hash), ("operator", .string r.operator), ("parsed", r.parsed),
    ("operands", .array (r.operands.map .string))]

/-- The JSON value of a line of a transcript. -/
def CommandLog.toJson (l : CommandLog) : Json :=
  .object [("timestamp", .string l.timestamp), ("command", .string l.command)]

/-- The JSON value of a line of a transcript. -/
def OutputLog.toJson (l : OutputLog) : Json :=
  .object [("timestamp", .string l.timestamp), ("output", .string l.output)]

end Formulary.Wire
