import Formulary.Registry
import Formulary.Wire.Read
import Formulary.Wire.Record
import Formulary.Wire.Write

/-!
# The line server

A server reads one request a line and answers each with one line, whatever the line is. A request
names an operation of the registry; what the operation gives is the result, and what keeps it from
being served is an error with a code that tells what kind of failure it is. Only a request that
breaks off has no answer.
-/

namespace Formulary.Server

open Wire

/-! ## Errors -/

/-- Why a request has no result. -/
inductive Failure
  /-- The line is no request. -/
  | notARequest (said : String)
  | unknownMethod
  /-- The parameters are not of the shape that the method takes. -/
  | badParams (said : String)
  /-- A digest among the parameters is none. -/
  | badDigest (text : String) (fault : Digest.Fault)
  | rejected (rejection : Rejection)
  deriving DecidableEq

/-- The code of a failure. -/
def Failure.code : Failure → Int
  | notARequest _ => -32700
  | unknownMethod => -32601
  | badParams _ | badDigest _ _ => -32602
  | rejected rejection =>
    match rejection with
    | .store (.notFound _) => -32004
    | .store _ => -32603
    | _ => -32000

/-- The short text of a failure. -/
def Failure.message [Wording] : Failure → String
  | notARequest _ => "Parse error"
  | unknownMethod => "Method not found"
  | badParams _ | badDigest _ _ => "Invalid params"
  | rejected rejection =>
    match rejection with
    | .store (.notFound _) => rejection.message
    | .store _ => "Internal error"
    | _ => rejection.message

/-- What is told of a failure beyond its text. -/
def Failure.data [Wording] : Failure → Option Json
  | notARequest said | badParams said => some (.string said)
  | unknownMethod => none
  | badDigest text fault => some (.string (text ++ ": " ++ fault.message))
  | rejected rejection =>
    match rejection with
    | .store (.notFound _) => none
    | .store _ => some (.string rejection.message)
    | _ => some (.object [("stage", .string rejection.reached.name)])

/-- The error that is sent for a failure. -/
def Failure.toError [Wording] (failure : Failure) : ErrorObject :=
  ⟨failure.code, failure.message, failure.data⟩

/-! ## Results -/

/-- A request that is being answered. -/
abbrev Answer (α : Type) := ExceptT Failure Store.Run α

/-- An operation of the registry, as a part of an answer. -/
def serve {α : Type} (operation : Registry.Request α) : Answer α :=
  ExceptT.adapt Failure.rejected operation

/-- The parameters of a request, read by `read`. -/
def params [Wording] {α : Type} (request : Request) (read : Nat → Json.Written → Option α) :
    Answer α :=
  match read Json.greatestHeight request.params.asWritten with
  | some a => return a
  | none =>
    throw (.badParams (Wording.notJson ("params of " ++ request.method) request.params.bytes))

/-- The digest that a text among the parameters denotes. -/
def digest (text : String) : Answer Digest :=
  match Digest.ofText text with
  | .ok d => return d
  | .error fault => throw (.badDigest text fault)

/-- The result of a check. -/
def checkResult [Wording] : Except Rejection Expr → CheckResult
  | .ok tree => ⟨true, some tree.render, none, none⟩
  | .error rejection => ⟨false, none, some rejection.message, some rejection.reached.name⟩

/-- The result of a request. -/
def result [Wording] (registry : Registry) (request : Request) : Answer Json := do
  if request.method = Wire.testOutput then
    let p ← params request TestOutputParams.ofWritten?
    return .bool (← registry.accepts p.source)
  else if request.method = Wire.check then
    let p ← params request TestOutputParams.ofWritten?
    let outcome ← liftM (registry.check p.source).run
    return (checkResult outcome).toJson
  else if request.method = Wire.createEntry then
    let p ← params request CreateEntryParams.ofWritten?
    let operands ← p.operands.mapM digest
    let d ← serve (registry.create p.source operands)
    return .string d.toText
  else if request.method = Wire.getEntry then
    let p ← params request EntryRef.ofWritten?
    let d ← digest p.hash
    return (EntryRecord.ofEntry d (← serve (Registry.fetch d))).toJson
  else if request.method = Wire.awaitEntry then
    let p ← params request EntryRef.ofWritten?
    let d ← digest p.hash
    return (EntryRecord.ofEntry d (← serve (registry.await d))).toJson
  else if request.method = Wire.listEntries then
    let ds ← serve Registry.digests
    return .array (ds.map Digest.toJson)
  else throw .unknownMethod

/-! ## Lines -/

/-- The message that answers a request: its result, with the members of objects in the order of
    their keys, or an error. -/
def respond [Wording] (registry : Registry) (request : Request) : Store.Run ServerMessage := do
  match ← (result registry request).run with
  | .ok v => return .response ⟨request.id, v.sorted⟩
  | .error failure => return .error ⟨request.id, failure.toError⟩

/-- The message that answers a line. A line that is no request has no number, which is told as
    zero. -/
def reply [Wording] (registry : Registry) (line : String) : Store.Run ServerMessage :=
  match Wire.read? Request.ofWritten? line with
  | some request => respond registry request
  | none =>
    let failure := Failure.notARequest (Wording.notJson "Request" (Bytes.ofText line))
    return .error ⟨0, failure.toError⟩

/-- The line that answers a line. -/
def answer [Wording] (registry : Registry) (line : String) : Store.Run String := do
  return (← reply registry line).toJson.compact

end Formulary.Server
