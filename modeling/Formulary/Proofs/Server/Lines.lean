import Formulary.Proofs.Registry.Clock
import Formulary.Proofs.Server.Requests
import Formulary.Proofs.Wire.Messages

/-!
# Lines of a server

Whatever a line is, it is answered with one line that reads as a message (`AnswersWith`): with the
value of the call that it asks for, or with an error that tells why there is none. The store is left
as the call leaves it. Only a call that breaks off has no answer.

* `answered_as_called`: what each line is answered with;
* `unanswered_past_clock_end`: settings that are accepted, but let a request break off.
-/

namespace Formulary.Server

open Store (outcome outcome_liftM WaitsInTime)
open Wire

variable {registry : Registry} {request : Wire.Request} {s t : Store} {line : String}

/-! ## Calls -/

theorem outcome_call_check (registry : Registry) (source : String) (s : Store) : ∃ log,
    outcome ((Asked.check source).call registry) s =
      (some (.ok (registry.verdict source)), { s with log }) := by
  obtain ⟨log, h⟩ := Registry.outcome_check registry source s
  have hrun : (registry.check source).run.run.run s =
      (some (registry.verdict source), { s with log }) := h
  exact ⟨log, by rw [Asked.call, outcome_liftM, hrun]; rfl⟩

theorem outcome_call_accepts (registry : Registry) (source : String) (s : Store) : ∃ log,
    outcome ((Asked.accepts source).call registry) s =
      (some (.ok (registry.verdict source).isOk), { s with log }) := by
  obtain ⟨log, h⟩ := Registry.outcome_check registry source s
  have hrun : (registry.check source).run.run.run s =
      (some (registry.verdict source), { s with log }) := h
  have haccepts : (registry.accepts source).run.run s =
      (some (registry.verdict source).isOk, { s with log }) := by
    unfold Registry.accepts
    simp only [OptionT.run_bind, Option.elimM, StateT.run_bind, hrun]
    rfl
  exact ⟨log, by rw [Asked.call, outcome_liftM, haccepts]; rfl⟩

/-- Calls come to an end if the moments that they ask for can be told, and the looks counted. -/
theorem exists_outcome_call (hsettles : s.SettlesInTime)
    (hwaits : WaitsInTime registry.patience s.now) (asked : Asked) :
    ∃ r t, outcome (asked.call registry) s = (some r, t) := by
  cases asked with
  | accepts source =>
    obtain ⟨log, h⟩ := outcome_call_accepts registry source s
    exact ⟨_, _, h⟩
  | check source =>
    obtain ⟨log, h⟩ := outcome_call_check registry source s
    exact ⟨_, _, h⟩
  | create source operands => exact Registry.exists_outcome_create hsettles source operands
  | fetch d =>
    obtain ⟨log, h⟩ := Registry.outcome_fetch d s
    exact ⟨_, _, h⟩
  | await d => exact Registry.exists_outcome_await hwaits d
  | digests => exact Registry.exists_outcome_digests s

/-! ## Requests -/

/-- The number of a request is one of 64 bits. -/
theorem lt_of_word? {bits n : Nat} {w : Json.Written} (h : w.word? bits = some n) :
    n < 2 ^ bits := by
  obtain ⟨i, hi, rfl⟩ := Option.map_eq_some_iff.1 h
  have hpow : Nat.pow 2 bits = 2 ^ bits := rfl
  have hpos : 0 < 2 ^ bits := Nat.two_pow_pos bits
  rw [Json.Written.between?.eq_def] at hi
  split at hi
  · split_ifs at hi with hbounds
    obtain rfl := Option.some.inj hi
    rw [hpow] at hbounds
    omega
  · cases hi

theorem id_lt_of_read? (h : Wire.read? Wire.Request.ofWritten? line = some request) :
    request.id < 2 ^ 64 := by
  obtain ⟨w, -, h⟩ := Option.bind_eq_some_iff.1 h
  obtain ⟨fields, -, h⟩ := Option.bind_eq_some_iff.1 h
  obtain ⟨id, hid, h⟩ := Option.bind_eq_some_iff.1 h
  obtain ⟨method, -, h⟩ := Option.bind_eq_some_iff.1 h
  obtain ⟨params, -, h⟩ := Option.bind_eq_some_iff.1 h
  obtain ⟨v, -, hid⟩ := Option.bind_eq_some_iff.1 hid
  cases h
  exact lt_of_word? hid

/-! ## Records -/

namespace Asked

/-- A tree that was retrieved is no deeper than those of programs. -/
theorem height_parsed_le {d : Digest} {entry : Entry} (h : Registry.Retrieved s d entry) :
    entry.parsed.toJson.height ≤ 3 * Expr.greatestMaxDepth + 1 := by
  obtain ⟨now, -, -, hgenuine⟩ := h.exists_fetch?
  obtain ⟨-, -, hdepth⟩ := Expr.parse_eq_ok_iff.1 hgenuine.parse_eq
  have hheight := entry.parsed.height_toJson_le
  rw [Nat.min_self] at hdepth
  omega

theorem height_record_lt {d : Digest} {entry : Entry} (h : Registry.Retrieved s d entry) :
    (EntryRecord.ofEntry d entry).toJson.height < Json.greatestHeight := by
  have hheight := entry.parsed.toJson.height_sorted_le.trans (height_parsed_le h)
  have hparsed : (EntryRecord.ofEntry d entry).parsed = entry.parsed.toJson.sorted := rfl
  -- a record adds one level to its tree, and there is room for far more
  rw [EntryRecord.height_toJson, hparsed]
  simp only [Json.greatestHeight, Expr.greatestMaxDepth] at hheight ⊢
  omega

/-- The value reads as a record of the entry, under the text of the digest, whose tree reads as that
    of the entry. -/
def IsRecordOf (d : Digest) (entry : Entry) (v : Json) : Prop :=
  ∃ record, EntryRecord.ofWritten? Json.greatestHeight v.asWritten = some record ∧
    record.hash = d.toText ∧ record.operator = entry.operator ∧
    record.operands = entry.operands.map Digest.toText ∧
    Expr.ofWritten? Json.greatestHeight record.parsed.asWritten = some entry.parsed

/-- An entry that was retrieved can be sent as a record of it. -/
theorem isRecordOf_of_retrieved {d : Digest} {entry : Entry} (h : Registry.Retrieved s d entry) :
    IsRecordOf d entry (EntryRecord.ofEntry d entry).toJson.sorted := by
  have hrecord := Nat.le_of_lt (height_record_lt h)
  have htree : entry.parsed.toJson.height ≤ Json.greatestHeight :=
    (height_parsed_le h).trans (by decide)
  have hparsed : (EntryRecord.ofEntry d entry).parsed = entry.parsed.toJson.sorted := rfl
  refine ⟨_, EntryRecord.readsSorted_toJson _ _ hrecord, rfl, rfl, rfl, ?_⟩
  -- what is sorted once is not changed by being kept as a free value
  rw [hparsed, Json.sorted_sorted]
  exact entry.parsed.readsSorted_toJson _ htree

end Asked

/-! ## Codes -/

theorem code_mem (failure : Failure) :
    failure.code ∈ [-32700, -32601, -32602, -32004, -32603, -32000] := by
  cases failure with
  | notARequest | unknownMethod | badParams | badDigest => simp [Failure.code]
  | rejected rejection =>
    cases rejection with
    | unparsable | invalid | missingOperand => simp [Failure.code]
    | store error => cases error <;> simp [Failure.code]

section

variable [Wording]

/-! ## Answers -/

/-- The message that tells of a result. -/
def messageOf (id : Nat) : Except Failure Json → ServerMessage
  | .ok v => .response ⟨id, v.sorted⟩
  | .error failure => .error ⟨id, failure.toError⟩

/-- A request is answered under its number. -/
theorem run_respond (registry : Registry) (request : Wire.Request) (s : Store) :
    (respond registry request).run.run s =
      ((outcome (result registry request) s).1.map (messageOf request.id),
        (outcome (result registry request) s).2) := by
  have hrun : (respond registry request).run.run s =
      match outcome (result registry request) s with
      | (some r, t) => (some (messageOf request.id r), t)
      | (none, t) => (none, t) := by
    unfold respond outcome
    simp only [OptionT.run_bind, Option.elimM, StateT.run_bind]
    rcases (result registry request).run.run.run s with ⟨_ | _ | v, t⟩ <;> rfl
  rw [hrun]
  rcases outcome (result registry request) s with ⟨_ | r, t⟩ <;> rfl

/-- The answer is the message as one line. -/
theorem run_answer (registry : Registry) (line : String) (s : Store) :
    (answer registry line).run.run s =
      (((reply registry line).run.run s).1.map fun message => message.toJson.compact,
        ((reply registry line).run.run s).2) := by
  unfold answer
  simp only [OptionT.run_bind, Option.elimM, StateT.run_bind]
  rcases (reply registry line).run.run s with ⟨_ | message, t⟩ <;> rfl

/-- The line is answered with one line, which reads as the message, and `t` is what it leaves of the
    store. -/
def AnswersWith (registry : Registry) (s : Store) (line : String) (message : ServerMessage)
    (t : Store) : Prop :=
  ∃ text, (answer registry line).run.run s = (some text, t) ∧ Json.OnOneLine text ∧
    Wire.read? ServerMessage.ofWritten? text = some message

/-- A message that can be sent is read as it was sent. -/
theorem answersWith_of_reply {message : ServerMessage}
    (h : (reply registry line).run.run s = (some message, t)) (hplain : message.IsPlain)
    (hheight : message.toJson.height ≤ Json.greatestHeight) :
    AnswersWith registry s line message t := by
  have hexact := ServerMessage.isExact_toJson hplain.isSendable
  refine ⟨message.toJson.compact, by rw [run_answer, h]; rfl, hexact.onOneLine_compact, ?_⟩
  rw [read?_compact _ hexact, ServerMessage.ofWritten?_toJson hplain hheight]

/-! ## Errors -/

/-- With an error goes nothing, a text or a stage. -/
theorem data_cases (failure : Failure) :
    failure.data = none ∨ (∃ text, failure.data = some (.string text)) ∨
      ∃ stage, failure.data = some (.object [("stage", .string stage)]) := by
  cases failure with
  | notARequest | badParams | badDigest => exact .inr (.inl ⟨_, rfl⟩)
  | unknownMethod => exact .inl rfl
  | rejected rejection =>
    cases rejection with
    | unparsable | invalid | missingOperand => exact .inr (.inr ⟨_, rfl⟩)
    | store error =>
      cases error with
      | notFound => exact .inl rfl
      | doubtful | undecodable | disk => exact .inr (.inl ⟨_, rfl⟩)

/-- Every failure can be sent as an error. -/
theorem isPlain_toError (failure : Failure) : failure.toError.IsPlain := by
  have hcode : Int32.minValue.toInt ≤ failure.code ∧ failure.code ≤ Int32.maxValue.toInt := by
    have hall : ∀ code ∈ [-32700, -32601, -32602, -32004, -32603, -32000],
        Int32.minValue.toInt ≤ code ∧ code ≤ Int32.maxValue.toInt := by decide
    exact hall _ (code_mem failure)
  refine ⟨hcode.1, hcode.2, ?_, ?_, ?_⟩ <;>
    rw [Failure.toError] <;>
    rcases data_cases failure with h | ⟨text, h⟩ | ⟨stage, h⟩ <;> rw [h]
  · exact fun _ => nofun
  · rintro _ ⟨⟩
    exact .string text
  · rintro _ ⟨⟩
    exact .object (by simpa using .string stage)
  · exact fun _ => nofun
  · rintro _ ⟨⟩
    rfl
  · rintro _ ⟨⟩
    rfl
  · nofun
  · nofun
  · nofun

theorem height_toError_le (failure : Failure) : failure.toError.toJson.height ≤ 2 := by
  rw [Failure.toError, ErrorObject.toJson]
  rcases data_cases failure with h | ⟨text, h⟩ | ⟨stage, h⟩ <;> rw [h] <;>
    simp [optionalMember, Json.height, Json.membersHeight, Json.int]

/-! ## Results -/

namespace Asked

theorem isExact_toJson (asked : Asked) (a : asked.Value) : (asked.toJson a).IsExact := by
  have hrecord (d : Digest) (entry : Entry) : (EntryRecord.ofEntry d entry).toJson.IsExact :=
    EntryRecord.isExact_toJson entry.parsed.isExact_toJson.sorted
  cases asked with
  | accepts source => exact .bool a
  | check source => exact CheckResult.isExact_toJson _
  | create source operands => exact .string _
  | fetch d => exact hrecord d a
  | await d => exact hrecord d a
  | digests => exact .array (List.forall_mem_map.2 fun d _ => .string d.toText)

/-- What a call gives is not too deep to be read back. -/
theorem height_toJson_lt {asked : Asked} {a : asked.Value}
    (h : (outcome (asked.call registry) s).1 = some (.ok a)) :
    (asked.toJson a).height < Json.greatestHeight := by
  have hscalar : 0 < Json.greatestHeight := by decide
  cases asked with
  | accepts source => exact hscalar
  | check source =>
    rw [toJson, CheckResult.height_toJson]
    decide
  | create source operands => exact hscalar
  | fetch d => exact height_record_lt (.fetch h)
  | await d => exact height_record_lt (.await h)
  | digests =>
    rw [toJson, Entry.height_operands]
    decide

/-- The result of a request reads as what the call gave. -/
def Denotes (v : Json) : (asked : Asked) → asked.Value → Prop
  | accepts _, b => v.asWritten.bool? = some b
  | check _, .ok tree => CheckResult.ofWritten? Json.greatestHeight v.asWritten =
      some ⟨true, some tree.render, none, none⟩
  | check _, .error rejection => CheckResult.ofWritten? Json.greatestHeight v.asWritten =
      some ⟨false, none, some rejection.message, some rejection.reached.name⟩
  | create _ _, d => Digest.ofWritten? v.asWritten = some d
  | fetch d, entry => IsRecordOf d entry v
  | await d, entry => IsRecordOf d entry v
  | digests, ds =>
      v.asWritten.list? (fun _ => Digest.ofWritten?) Json.greatestHeight = some ds

/-- What a call gives is denoted by what is sent of it, whatever the order of members. -/
theorem denotes_sorted {asked : Asked} {a : asked.Value}
    (h : (outcome (asked.call registry) s).1 = some (.ok a)) :
    asked.Denotes (asked.toJson a).sorted a := by
  have hheight := Nat.le_of_lt (height_toJson_lt h)
  have hdigest (d : Digest) : Json.ReadsSorted (fun _ => Digest.ofWritten?) d.toJson d :=
    (Entry.readsBack_digest d).readsSorted rfl
  cases asked with
  | accepts source => rfl
  | check source => cases a <;> exact CheckResult.readsSorted_toJson _ _ hheight
  | create source operands => exact hdigest a Json.greatestHeight hheight
  | fetch d => exact isRecordOf_of_retrieved (.fetch h)
  | await d => exact isRecordOf_of_retrieved (.await h)
  | digests => exact Json.readsSorted_array (fun d _ => hdigest d) _ hheight

end Asked

/-! ## Rejections -/

/-- The error tells of a rejection: with the code of what is not there, of what the store could not
    do, or of a program that is rejected, and then with the stage. -/
def TellsOf (error : ErrorObject) : Rejection → Prop
  | .store (.notFound d) => error.code = -32004 ∧
      error.message = (Rejection.store (.notFound d)).message
  | .store error' => error.code = -32603 ∧
      error.data = some (.string (Rejection.store error').message)
  | rejection => error.code = -32000 ∧ error.message = rejection.message ∧
      error.data = some (.object [("stage", .string rejection.reached.name)])

/-- Every rejection is told of. -/
theorem tellsOf_toError (rejection : Rejection) :
    TellsOf (Failure.rejected rejection).toError rejection := by
  cases rejection with
  | unparsable | invalid | missingOperand => exact ⟨rfl, rfl, rfl⟩
  | store error => cases error <;> exact ⟨rfl, rfl⟩

/-! ## Replies -/

theorem answersWith_error {id : Nat} (hid : id < 2 ^ 64) {failure : Failure}
    (h : (reply registry line).run.run s = (some (.error ⟨id, failure.toError⟩), t)) :
    AnswersWith registry s line (.error ⟨id, failure.toError⟩) t := by
  have hheight := height_toError_le failure
  refine answersWith_of_reply h ⟨hid, isPlain_toError failure⟩ ?_
  simp only [ServerMessage.toJson, ErrorResponse.toJson, Json.int, Json.height,
    Json.membersHeight, Json.greatestHeight]
  omega

theorem answersWith_response {id : Nat} (hid : id < 2 ^ 64) {asked : Asked} {a : asked.Value}
    {u : Store} (hcall : (outcome (asked.call registry) u).1 = some (.ok a))
    (h : (reply registry line).run.run s = (some (.response ⟨id, (asked.toJson a).sorted⟩), t)) :
    AnswersWith registry s line (.response ⟨id, (asked.toJson a).sorted⟩) t := by
  have hheight := (asked.toJson a).height_sorted_le.trans_lt (Asked.height_toJson_lt hcall)
  refine answersWith_of_reply h
    ⟨hid, (asked.isExact_toJson a).sorted, (asked.toJson a).sorted_sorted⟩ ?_
  simp only [ServerMessage.toJson, Response.toJson, Json.int, Json.height, Json.membersHeight]
  omega

theorem run_reply_of_request (registry : Registry) (s : Store)
    (hline : Wire.read? Wire.Request.ofWritten? line = some request) :
    (reply registry line).run.run s =
      ((outcome (result registry request) s).1.map (messageOf request.id),
        (outcome (result registry request) s).2) := by
  rw [reply, hline]
  exact run_respond registry request s

/-! ## Lines -/

/-- A line that is no request, a request of an unknown method and one whose parameters cannot be
    read are answered with errors, and change nothing. Any other request is answered with what its
    call of the registry gives, or with an error that tells of its rejection, and leaves the store
    that the call leaves. A check always gives something, be it why the program is rejected. As long
    as the delay and the timeout end before the clock, and the looks within the timeout can be
    counted, every call comes to an end, so every line is answered with one line that reads as a
    message; a call that breaks off has no answer. -/
theorem answered_as_called (registry : Registry) (s : Store) :
    (∀ line, Wire.read? Wire.Request.ofWritten? line = none → ∃ error,
      AnswersWith registry s line (.error ⟨0, error⟩) s ∧ error.code = -32700) ∧
    (∀ line request, Wire.read? Wire.Request.ofWritten? line = some request →
      (request.method ∉ methods → ∃ error,
        AnswersWith registry s line (.error ⟨request.id, error⟩) s ∧ error.code = -32601) ∧
      (request.method ∈ methods → (∀ asked, ¬Asks request asked) → ∃ error,
        AnswersWith registry s line (.error ⟨request.id, error⟩) s ∧ error.code = -32602) ∧
      ∀ asked, Asks request asked → match outcome (asked.call registry) s with
        | (some (.ok a), t) => ∃ v,
            AnswersWith registry s line (.response ⟨request.id, v⟩) t ∧ asked.Denotes v a
        | (some (.error rejection), t) => ∃ error,
            AnswersWith registry s line (.error ⟨request.id, error⟩) t ∧ TellsOf error rejection
        | (none, t) => (answer registry line).run.run s = (none, t)) ∧
    (∀ source, ∃ log, outcome ((Asked.check source).call registry) s =
      (some (.ok (registry.verdict source)), { s with log })) ∧
    (∀ source, ∃ log, outcome ((Asked.accepts source).call registry) s =
      (some (.ok (registry.verdict source).isOk), { s with log })) ∧
    (s.SettlesInTime → WaitsInTime registry.patience s.now →
      ∀ asked : Asked, ∃ r t, outcome (asked.call registry) s = (some r, t)) := by
  refine ⟨fun line hline => ?_, fun line request hline => ?_,
    fun source => outcome_call_check registry source s,
    fun source => outcome_call_accepts registry source s, exists_outcome_call⟩
  -- a line without a number is answered under zero
  · let failure := Failure.notARequest (Wording.notJson "Request" (Bytes.ofText line))
    refine ⟨failure.toError, answersWith_error (by decide) ?_, rfl⟩
    rw [reply, hline]
    rfl
  have hid := id_lt_of_read? hline
  have hreply := run_reply_of_request registry s hline
  refine ⟨fun hmethod => ?_, fun hmethod hnone => ?_, fun asked hasks => ?_⟩
  · refine ⟨Failure.unknownMethod.toError, answersWith_error hid ?_, rfl⟩
    rw [hreply, result_of_unknown hmethod]
    rfl
  · obtain ⟨failure, hcode, hresult⟩ := exists_failure_of_not_asks registry hmethod hnone
    refine ⟨failure.toError, answersWith_error hid ?_, hcode⟩
    rw [hreply, hresult]
    rfl
  · rw [outcome_result_of_asks hasks] at hreply
    rcases hcall : outcome (asked.call registry) s with ⟨_ | rejection | a, t⟩ <;>
      rw [hcall] at hreply
    · rw [run_answer, hreply]
      rfl
    · exact ⟨_, answersWith_error hid hreply, tellsOf_toError rejection⟩
    · have hvalue : (outcome (asked.call registry) s).1 = some (.ok a) := by rw [hcall]
      exact ⟨_, answersWith_response hid hvalue hreply, Asked.denotes_sorted hvalue⟩

end

/-- A request to check a program is answered with its canonical text. -/
theorem answered_as_called_check :
    let _ : Wording := ⟨fun _ _ => "unreadable JSON", fun _ => "unreadable TOML"⟩
    let request : Wire.Request := ⟨7, Wire.check, .object [("params_string", .string "(f  x)")]⟩
    ∃ v t, AnswersWith ⟨32, ⟨.millis 50, .secs 5⟩⟩ (.inMemory (some 5) .empty 0)
        request.toJson.compact (.response ⟨7, v⟩) t ∧
      CheckResult.ofWritten? Json.greatestHeight v.asWritten =
        some ⟨true, some "(f x)", none, none⟩ := by
  intro _ request
  let registry : Registry := ⟨32, ⟨.millis 50, .secs 5⟩⟩
  let s : Store := .inMemory (some 5) .empty 0
  obtain ⟨-, hanswers, hcheck, -, -⟩ := answered_as_called registry s
  have hparams : request.params.IsExact := .object (by simpa using .string "(f  x)")
  have hexact : request.toJson.IsExact :=
    .object (by simpa using ⟨.int (fitsWord_id (by decide)), .string request.method, hparams⟩)
  have hline : Wire.read? Wire.Request.ofWritten? request.toJson.compact = some request :=
    (read?_compact _ hexact).trans rfl
  have hasks : Asks request (.check "(f  x)") := .check rfl rfl
  have hanswer := (hanswers _ _ hline).2.2 _ hasks
  obtain ⟨log, hcall⟩ := hcheck "(f  x)"
  rw [hcall] at hanswer
  obtain ⟨v, hanswer, hdenotes⟩ := hanswer
  have hverdict : registry.verdict "(f  x)" = .ok (.apply (.symbol "f") [.symbol "x"]) := by
    decide +kernel
  rw [hverdict] at hdenotes
  exact ⟨v, _, hanswer, hdenotes⟩

/-- Settings with a timeout that ends after the clock are accepted, but a request to wait for an
    entry is not answered then. -/
theorem unanswered_past_clock_end :
    let _ : Wording := ⟨fun _ _ => "unreadable JSON", fun _ => "unreadable TOML"⟩
    let settings : Settings :=
      ⟨32, .memory, "", none, ⟨.millis 50, .secs 18446744073709551615⟩, "info"⟩
    let request : Wire.Request := ⟨2, awaitEntry, .string (Digest.of []).toText⟩
    settings.validate = .ok () ∧
      ((answer (.ofSettings settings) request.toJson.compact).run.run
        (.inMemory none .empty 0)).1 = none := by
  decide +kernel

end Formulary.Server
