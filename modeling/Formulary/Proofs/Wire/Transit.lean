import Formulary.Proofs.Wire.Messages

/-!
# What arrives of a message

A message is written as JSON by one program and read by another as a message of the same type. It
arrives as it was sent, whatever texts, numbers and free values are in it, unless it nests too deep
to be read at all (`message_arrives`). A message of one shape is never taken for one of the other
where there are two. The one thing that is lost on the way is null as the data of an error
(`ErrorObject.received`).
-/

namespace Formulary.Wire

open Formulary (Json)
open Json (Written)

/-- A message that is written as `v` arrives as `message` where it is read by `read`, unless it
    nests too deep to be read. -/
def ArrivesAs {α : Type} (read : Nat → Written → Option α) (v : Json) (message : α) : Prop :=
  v.height ≤ Json.greatestHeight → read? read v.compact = some message

variable {α : Type} {read : Nat → Written → Option α} {v : Json} {message : α}

/-- What is read of a value arrives of its text. -/
theorem arrivesAs_of_asWritten (hexact : v.IsExact)
    (h : ∀ room, v.height ≤ room → read room v.asWritten = some message) :
    ArrivesAs read v message :=
  fun hheight => (read?_compact read hexact).trans (h _ hheight)

/-! ## Lines of transcripts -/

theorem CommandLog.arrives (l : CommandLog) : ArrivesAs ofWritten? l.toJson l := by
  refine arrivesAs_of_asWritten (.object ?_) fun room hroom => ?_
  · simpa using ⟨.string l.timestamp, .string l.command⟩
  · obtain ⟨fields, hfields, hlookup⟩ :=
      Json.exists_record ["timestamp", "command"] _ (by simp) hroom
    have htimestamp := required_text (hlookup "timestamp" (by decide))
    have hcommand := required_text (hlookup "command" (by decide))
    rw [toJson, ofWritten?, hfields]
    simp only [Option.bind_eq_bind, Option.bind_some, htimestamp, hcommand]

theorem OutputLog.arrives (l : OutputLog) : ArrivesAs ofWritten? l.toJson l := by
  refine arrivesAs_of_asWritten (.object ?_) fun room hroom => ?_
  · simpa using ⟨.string l.timestamp, .string l.output⟩
  · obtain ⟨fields, hfields, hlookup⟩ :=
      Json.exists_record ["timestamp", "output"] _ (by simp) hroom
    have htimestamp := required_text (hlookup "timestamp" (by decide))
    have houtput := required_text (hlookup "output" (by decide))
    rw [toJson, ofWritten?, hfields]
    simp only [Option.bind_eq_bind, Option.bind_some, htimestamp, houtput]

/-! ## Parameters -/

theorem TestOutputParams.arrives (p : TestOutputParams) : ArrivesAs ofWritten? p.toJson p := by
  refine arrivesAs_of_asWritten (.object ?_) fun room hroom => ?_
  · simpa using Json.IsExact.string p.source
  · obtain ⟨fields, hfields, hlookup⟩ := Json.exists_record ["params_string"] _ (by simp) hroom
    have hsource := required_text (hlookup "params_string" (by decide))
    rw [toJson, ofWritten?, hfields]
    simp only [Option.bind_eq_bind, Option.bind_some, Option.map_some, hsource]

theorem CreateEntryParams.arrives (p : CreateEntryParams) :
    ArrivesAs ofWritten? p.toJson p := by
  refine arrivesAs_of_asWritten (.object ?_) fun room hroom => ?_
  · simpa using ⟨.string p.source, isExact_texts p.operands⟩
  · have hbelow : 1 ≤ room - 1 := by
      simp only [toJson, Json.height, Json.membersHeight] at hroom
      omega
    obtain ⟨fields, hfields, hlookup⟩ := Json.exists_record ["expr", "args"] _ (by simp) hroom
    have hsource := required_text (hlookup "expr" (by decide))
    have hoperands := orElse_texts hbelow (hlookup "args" (by decide))
    rw [toJson, ofWritten?, hfields]
    simp only [Option.bind_eq_bind, Option.bind_some, hsource, hoperands]

/-- Both shapes of parameters arrive as what they are. -/
theorem EntryRef.arrives (ref : EntryRef) : ArrivesAs ofWritten? ref.toJson ref := by
  cases ref with
  | bare hash => exact arrivesAs_of_asWritten (.string hash) fun _ _ => rfl
  | named hash =>
    refine arrivesAs_of_asWritten (.object ?_) fun room hroom => ?_
    · simpa using Json.IsExact.string hash
    · obtain ⟨fields, hfields, hlookup⟩ := Json.exists_record ["hash"] _ (by simp) hroom
      have hhash := required_text (hlookup "hash" (by decide))
      have hread : ofWritten? room (named hash).toJson.asWritten =
          ((named hash).toJson.asWritten.record? ["hash"] false room).bind fun fields =>
            (fields.required "hash" Written.text?).map .named := by
        rw [ofWritten?.eq_def, Json.readsBack_value, if_pos hroom]
        rfl
      rw [hread, toJson, hfields, Option.bind_some, hhash]
      rfl

/-! ## Results -/

theorem CheckResult.arrives (r : CheckResult) : ArrivesAs ofWritten? r.toJson r := by
  refine arrivesAs_of_asWritten r.isExact_toJson fun room hroom => ?_
  obtain ⟨accepted, canonical, error, stage⟩ := r
  obtain ⟨fields, hfields, hlookup⟩ := Json.exists_record
    ["accepted", "canonical", "error", "stage"] _
    (by cases canonical <;> cases error <;> cases stage <;> simp [optionalMember]) hroom
  have haccepted : fields.required "accepted" Written.bool? = some accepted := by
    rw [Json.Fields.required, hlookup "accepted" (by decide)]
    rfl
  have hcanonical : fields.optional "canonical" Written.text? = some canonical :=
    optional_text ((hlookup "canonical" (by decide)).trans
      (by cases canonical <;> cases error <;> cases stage <;> rfl))
  have herror : fields.optional "error" Written.text? = some error :=
    optional_text ((hlookup "error" (by decide)).trans
      (by cases canonical <;> cases error <;> cases stage <;> rfl))
  have hstage : fields.optional "stage" Written.text? = some stage :=
    optional_text ((hlookup "stage" (by decide)).trans
      (by cases canonical <;> cases error <;> cases stage <;> rfl))
  rw [toJson, ofWritten?, hfields]
  simp only [Option.bind_eq_bind, Option.bind_some, haccepted, hcanonical, herror, hstage]

/-- A record arrives with the tree that it holds, as sorted as it was. -/
theorem EntryRecord.arrives {r : EntryRecord} (hexact : r.parsed.IsExact)
    (hsorted : r.parsed.sorted = r.parsed) : ArrivesAs ofWritten? r.toJson r := by
  refine arrivesAs_of_asWritten (isExact_toJson hexact) fun room hroom => ?_
  have hbelow : r.parsed.height ≤ room - 1 ∧ 1 ≤ room - 1 := by
    rw [height_toJson] at hroom
    omega
  obtain ⟨fields, hfields, hlookup⟩ := Json.exists_record
    ["hash", "operator", "parsed", "operands"] _ (by simp) hroom
  have hhash := required_text (hlookup "hash" (by decide))
  have hoperator := required_text (hlookup "operator" (by decide))
  have hparsed := required_free (hlookup "parsed" (by decide)) hbelow.1 hsorted
  have hoperands := orElse_texts hbelow.2 (hlookup "operands" (by decide))
  rw [toJson, ofWritten?, hfields]
  simp only [Option.bind_eq_bind, Option.bind_some, hhash, hoperator, hparsed, hoperands]

/-! ## Requests and their answers -/

theorem Request.arrives {r : Request} (h : r.IsPlain) : ArrivesAs ofWritten? r.toJson r :=
  arrivesAs_of_asWritten (isExact_toJson h) fun _ => ofWritten?_toJson h

theorem Response.arrives {r : Response} (h : r.IsPlain) : ArrivesAs ofWritten? r.toJson r :=
  arrivesAs_of_asWritten (isExact_toJson h) fun _ => ofWritten?_toJson h

/-- An error arrives without data that are null. -/
theorem ErrorObject.arrives {e : ErrorObject} (h : e.IsSendable) :
    ArrivesAs ofWritten? e.toJson e.received :=
  arrivesAs_of_asWritten (isExact_toJson h) fun _ => ofWritten?_toJson h

theorem ErrorResponse.arrives {r : ErrorResponse} (h : r.IsSendable) :
    ArrivesAs ofWritten? r.toJson r.received :=
  arrivesAs_of_asWritten (isExact_toJson h) fun _ => ofWritten?_toJson h

/-- Neither shape of a line of a server arrives as the other. -/
theorem ServerMessage.arrives {message : ServerMessage} (h : message.IsSendable) :
    ArrivesAs ofWritten? message.toJson message.received :=
  arrivesAs_of_asWritten (isExact_toJson h) fun _ => ofWritten?_received h

/-! ## All messages -/

/-- The types of messages. -/
inductive Kind
  | request
  | response
  | errorResponse
  | errorObject
  | serverMessage
  | testOutputParams
  | checkResult
  | createEntryParams
  | entryRef
  | entryRecord
  | commandLog
  | outputLog

namespace Kind

abbrev Message : Kind → Type
  | request => Request
  | response => Response
  | errorResponse => ErrorResponse
  | errorObject => ErrorObject
  | serverMessage => ServerMessage
  | testOutputParams => TestOutputParams
  | checkResult => CheckResult
  | createEntryParams => CreateEntryParams
  | entryRef => EntryRef
  | entryRecord => EntryRecord
  | commandLog => CommandLog
  | outputLog => OutputLog

/-- How messages of a type are written. -/
def toJson : (kind : Kind) → kind.Message → Json
  | request => Request.toJson
  | response => Response.toJson
  | errorResponse => ErrorResponse.toJson
  | errorObject => ErrorObject.toJson
  | serverMessage => ServerMessage.toJson
  | testOutputParams => TestOutputParams.toJson
  | checkResult => CheckResult.toJson
  | createEntryParams => CreateEntryParams.toJson
  | entryRef => EntryRef.toJson
  | entryRecord => EntryRecord.toJson
  | commandLog => CommandLog.toJson
  | outputLog => OutputLog.toJson

/-- How messages of a type are read. -/
def ofWritten? : (kind : Kind) → Nat → Written → Option kind.Message
  | request => Request.ofWritten?
  | response => Response.ofWritten?
  | errorResponse => ErrorResponse.ofWritten?
  | errorObject => ErrorObject.ofWritten?
  | serverMessage => ServerMessage.ofWritten?
  | testOutputParams => TestOutputParams.ofWritten?
  | checkResult => CheckResult.ofWritten?
  | createEntryParams => CreateEntryParams.ofWritten?
  | entryRef => EntryRef.ofWritten?
  | entryRecord => EntryRecord.ofWritten?
  | commandLog => CommandLog.ofWritten?
  | outputLog => OutputLog.ofWritten?

/-- The numbers in a message are within their bounds, and its free values are without doubles and
    in order. Nothing is asked of texts. -/
def IsSendable : (kind : Kind) → kind.Message → Prop
  | request, r => r.IsPlain
  | response, r => r.IsPlain
  | errorResponse, r => r.IsSendable
  | errorObject, e => e.IsSendable
  | serverMessage, message => message.IsSendable
  | entryRecord, r => r.parsed.IsExact ∧ r.parsed.sorted = r.parsed
  | testOutputParams, _ | checkResult, _ | createEntryParams, _ | entryRef, _ | commandLog, _
  | outputLog, _ => True

/-- The data of the error in a message. -/
def errorData : (kind : Kind) → kind.Message → Option Json
  | errorResponse, r => r.error.data
  | errorObject, e => e.data
  | serverMessage, .error r => r.error.data
  | _, _ => none

/-- What arrives of a message. -/
def received : (kind : Kind) → kind.Message → kind.Message
  | errorResponse, r => r.received
  | errorObject, e => e.received
  | serverMessage, message => message.received
  | _, message => message

/-- A message arrives as it was sent exactly if null is not the data of an error in it. -/
theorem received_eq_iff (kind : Kind) (message : kind.Message) :
    kind.received message = message ↔ kind.errorData message ≠ some .null := by
  cases kind with
  | errorResponse => exact ErrorResponse.received_eq_iff
  | errorObject => exact ErrorObject.received_eq_iff
  | serverMessage =>
    cases message with
    | response r => exact iff_of_true rfl nofun
    | error r =>
      exact (ServerMessage.error.injEq r.received r).to_iff.trans ErrorResponse.received_eq_iff
  | request | response | testOutputParams | checkResult | createEntryParams | entryRef
  | entryRecord | commandLog | outputLog => exact iff_of_true rfl nofun

end Kind

/-- A message of any type arrives as it was sent, unless it nests too deep to be read: all texts,
    numbers within their bounds, free values without doubles, and shapes are kept. The only
    exception is an error whose data is null: it arrives without data, alone or in an answer. -/
theorem message_arrives (kind : Kind) (message : kind.Message) (h : kind.IsSendable message)
    (hheight : (kind.toJson message).height ≤ Json.greatestHeight) :
    read? kind.ofWritten? (kind.toJson message).compact = some (kind.received message) ∧
      (kind.received message = message ↔ kind.errorData message ≠ some .null) := by
  refine ⟨?_, kind.received_eq_iff message⟩
  cases kind with
  | request => exact Request.arrives h hheight
  | response => exact Response.arrives h hheight
  | errorResponse => exact ErrorResponse.arrives h hheight
  | errorObject => exact ErrorObject.arrives h hheight
  | serverMessage => exact ServerMessage.arrives h hheight
  | testOutputParams => exact TestOutputParams.arrives message hheight
  | checkResult => exact CheckResult.arrives message hheight
  | createEntryParams => exact CreateEntryParams.arrives message hheight
  | entryRef => exact EntryRef.arrives message hheight
  | entryRecord => exact EntryRecord.arrives h.1 h.2 hheight
  | commandLog => exact CommandLog.arrives message hheight
  | outputLog => exact OutputLog.arrives message hheight

/-- A rejection as a server sends it, with a list as its data. -/
def listedRejection : ServerMessage :=
  .error ⟨7, ⟨-32000, "rejected", some (.array [.null, .object [("stage", .string "lexed")]])⟩⟩

theorem isSendable_listedRejection : listedRejection.IsSendable := by
  refine ⟨by decide, ⟨by decide, by decide, fun v hv => ?_, fun v hv => ?_⟩⟩
  · obtain rfl := Option.some.inj hv
    exact .array (by simpa using ⟨.null, .object (by simpa using .string "lexed")⟩)
  · obtain rfl := Option.some.inj hv
    rfl

/-- Null inside the data of an error is kept. -/
theorem listedRejection_arrives :
    listedRejection.IsSendable ∧ listedRejection.toJson.height ≤ Json.greatestHeight ∧
    read? ServerMessage.ofWritten? listedRejection.toJson.compact = some listedRejection := by
  have hheight : listedRejection.toJson.height ≤ Json.greatestHeight := by decide
  obtain ⟨harrives, hreceived⟩ :=
    message_arrives .serverMessage listedRejection isSendable_listedRejection hheight
  have hkept : listedRejection.received = listedRejection := hreceived.2 nofun
  exact ⟨isSendable_listedRejection, hheight, harrives.trans (congrArg some hkept)⟩

/-- An error whose data is null. -/
def nullError : ErrorObject := ⟨-32000, "m", some .null⟩

/-- Null as the data of an error is lost on the way. -/
theorem nullError_loses_data :
    nullError.IsSendable ∧ nullError.toJson.height ≤ Json.greatestHeight ∧
    read? ErrorObject.ofWritten? nullError.toJson.compact = some { nullError with data := none } ∧
    read? ErrorObject.ofWritten? nullError.toJson.compact ≠ some nullError := by
  have hsendable : nullError.IsSendable := by
    refine ⟨by decide, by decide, fun v hv => ?_, fun v hv => ?_⟩
    · obtain rfl := Option.some.inj hv
      exact .null
    · obtain rfl := Option.some.inj hv
      rfl
  have hheight : nullError.toJson.height ≤ Json.greatestHeight := by decide
  have harrives : read? ErrorObject.ofWritten? nullError.toJson.compact =
      some { nullError with data := none } := ErrorObject.arrives hsendable hheight
  refine ⟨hsendable, hheight, harrives, fun h => ?_⟩
  rw [harrives] at h
  cases congrArg ErrorObject.data (Option.some.inj h)

end Formulary.Wire
