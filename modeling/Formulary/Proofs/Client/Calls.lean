import Formulary.Client
import Formulary.Proofs.Server.Lines

/-!
# Calls of a client

Whatever texts a client asks with (`Query`), its request takes one line of a stream, and is read by
the server as the request that it is (`read?_line`). What the registry gives for a query can be told
without any messages (`Query.direct`), and that is what the answer to the request tells the client
(`answered`).
-/

namespace Formulary.Client

open Store (outcome WaitsInTime)
open Server (Answer AnswersWith Asked Asks)
open Wire

/-! ## Queries -/

/-- What a client can ask for, digests being texts. -/
inductive Query
  | check (source : String)
  | create (source : String) (operands : List String)
  | fetch (hash : String)
  | await (hash : String)
  | list

namespace Query

/-- What a client gets for a query. -/
abbrev Value : Query → Type
  | check _ => CheckResult
  | create _ _ => String
  | fetch _ => EntryRecord
  | await _ => EntryRecord
  | list => List String

/-- The call that a client makes. -/
def call : (q : Query) → Call q.Value
  | check source => Client.check source
  | create source operands => Client.create source operands
  | fetch hash => Client.fetch hash
  | await hash => Client.await hash
  | list => Client.list

/-- What the registry gives for a query, without any messages. -/
def direct [Wording] (registry : Registry) : (q : Query) → Answer q.Value
  | check source => do
    return Server.checkResult (← liftM (registry.check source).run)
  | create source operands => do
    let ds ← operands.mapM Server.digest
    let d ← Server.serve (registry.create source ds)
    return d.toText
  | fetch hash => do
    let d ← Server.digest hash
    return EntryRecord.ofEntry d (← Server.serve (Registry.fetch d))
  | await hash => do
    let d ← Server.digest hash
    return EntryRecord.ofEntry d (← Server.serve (registry.await d))
  | list => do
    let ds ← Server.serve Registry.digests
    return ds.map Digest.toText

end Query

/-! ## Request lines -/

variable {registry : Registry} {s t : Store} {id : Nat}

/-- Parameters are texts, at most in a list in an object. -/
theorem isExact_params (q : Query) : q.call.params.IsExact := by
  have htexts (texts : List String) : (Json.array (texts.map .string)).IsExact :=
    .array (by simpa using fun text _ => .string text)
  cases q with
  | check source => exact .object (by simpa using .string source)
  | create source operands => exact .object (by simpa using ⟨.string source, htexts operands⟩)
  | fetch hash => exact .object (by simpa using .string hash)
  | await hash => exact .object (by simpa using .string hash)
  | list => exact .null

/-- What is asked for is a text, or a text beside a list of texts. -/
theorem height_params_le (q : Query) : q.call.params.height ≤ 2 := by
  cases q with
  | create source operands =>
    simp [Query.call, create, CreateEntryParams.toJson, Json.height, Json.membersHeight,
      Json.itemsHeight_map_string]
  | check source => exact Nat.le_succ 1
  | fetch hash => exact Nat.le_succ 1
  | await hash => exact Nat.le_succ 1
  | list => exact Nat.zero_le 2

theorem isPlain_request (q : Query) (hid : id < 2 ^ 64) : (q.call.request id).IsPlain :=
  ⟨hid, (isExact_params q).sorted, Json.sorted_sorted _⟩

/-- The server reads what the client has written. -/
theorem read?_line (q : Query) (hid : id < 2 ^ 64) :
    Wire.read? Request.ofWritten? (q.call.line id) = some (q.call.request id) := by
  have hplain := isPlain_request q hid
  have hheight := q.call.params.height_sorted_le.trans (height_params_le q)
  have hroom : (q.call.request id).toJson.height ≤ Json.greatestHeight := by
    simp only [Call.request, Request.toJson, Json.int, Json.height, Json.membersHeight,
      Json.greatestHeight]
    omega
  rw [Call.line, read?_compact _ (Request.isExact_toJson hplain),
    Request.ofWritten?_toJson hplain hroom]

theorem onOneLine_line (q : Query) (hid : id < 2 ^ 64) : Json.OnOneLine (q.call.line id) :=
  (Request.isExact_toJson (isPlain_request q hid)).onOneLine_compact

/-- So the server does not skip the line. -/
theorem isAllBlank_line (q : Query) (id : Nat) : Text.isAllBlank (q.call.line id) = false :=
  Json.isAllBlank_compact_object _

/-! ## Values that are read -/

/-- Parameters are read as what they are. -/
theorem read_create (source : String) (operands : List String) (id : Nat) :
    CreateEntryParams.ofWritten? Json.greatestHeight
      ((Query.create source operands).call.request id).params.asWritten =
        some ⟨source, operands⟩ :=
  CreateEntryParams.readsSorted_toJson ⟨source, operands⟩ _
    ((height_params_le (.create source operands)).trans (by decide))

theorem read_reference (hash : String) : EntryRef.ofWritten? Json.greatestHeight
    (EntryRef.named hash).toJson.sorted.asWritten = some (.named hash) :=
  EntryRef.readsSorted_named hash _ ((height_params_le (.fetch hash)).trans (by decide))

/-- A record is read as it was sent, for its tree was sorted before. -/
theorem readsSorted_record {d : Digest} {entry : Entry}
    (h : (EntryRecord.ofEntry d entry).toJson.height < Json.greatestHeight) :
    EntryRecord.ofWritten? Json.greatestHeight
      (EntryRecord.ofEntry d entry).toJson.sorted.asWritten =
        some (EntryRecord.ofEntry d entry) := by
  rw [EntryRecord.readsSorted_toJson _ _ (Nat.le_of_lt h), EntryRecord.ofEntry, Json.sorted_sorted]

section

variable [Wording]

/-! ## What is asked for -/

/-- For the request of the query the server makes the call, and what it sends of the value is read
    back as what the registry gives for the query. -/
structure Serves (q : Query) (asked : Asked) (value : asked.Value → q.Value) : Prop where
  asks : ∀ id, Asks (q.call.request id) asked
  outcome_direct : ∀ registry s, outcome (q.direct registry) s =
    ((outcome (asked.call registry) s).1.map fun r => (r.mapError .rejected).map value,
      (outcome (asked.call registry) s).2)
  read : ∀ registry s a, (outcome (asked.call registry) s).1 = some (.ok a) →
    q.call.read Json.greatestHeight (asked.toJson a).sorted.asWritten = some (value a)

/-- For the query nothing is called, but its failure is told. -/
def Fails (q : Query) (failure : Server.Failure) : Prop :=
  ∀ registry, q.direct registry = throw failure ∧
    ∀ id, Server.result registry (q.call.request id) = throw failure

/-- Where a reference is no digest nothing is looked for. -/
theorem result_of_bad_reference {request : Wire.Request} {p : EntryRef} {fault : Digest.Fault}
    (hmethod : request.method = getEntry ∨ request.method = awaitEntry)
    (hread : EntryRef.ofWritten? Json.greatestHeight request.params.asWritten = some p)
    (hdigest : Digest.ofText p.hash = .error fault) :
    Server.result registry request = throw (.badDigest p.hash fault) := by
  rcases hmethod with hmethod | hmethod
  · rw [Server.result_of_getEntry hmethod, Server.params_of_some hread, pure_bind,
      Server.digest_of_error hdigest, Server.throw_bind]
  · rw [Server.result_of_awaitEntry hmethod, Server.params_of_some hread, pure_bind,
      Server.digest_of_error hdigest, Server.throw_bind]

theorem serves_check (source : String) :
    Serves (.check source) (.check source) Server.checkResult where
  asks _ := .check rfl (TestOutputParams.readsSorted_toJson ⟨source⟩ _
    ((height_params_le (.check source)).trans (by decide)))
  outcome_direct _ s := Server.outcome_liftM_bind _ _ s
  read _ _ _ ha := CheckResult.readsSorted_toJson _ _ (Nat.le_of_lt (Asked.height_toJson_lt ha))

theorem serves_create {operands : List String} {ds : List Digest}
    (h : operands.mapM Digest.ofText = .ok ds) (source : String) :
    Serves (.create source operands) (.create source ds) Digest.toText where
  asks id := Asks.create rfl (read_create source operands id) h
  outcome_direct registry s := by
    rcases Server.mapM_digest operands with ⟨found, hread, hdigests⟩ | ⟨_, _, hread, -⟩ <;>
      rw [hread] at h
    · rw [Query.direct, hdigests, pure_bind, Except.ok.inj h]
      exact Server.outcome_serve_bind _ _ s
    · cases h
  read _ _ _ _ := rfl

theorem serves_fetch {hash : String} {d : Digest} (h : Digest.ofText hash = .ok d) :
    Serves (.fetch hash) (.fetch d) (EntryRecord.ofEntry d) where
  asks _ := .fetch rfl (read_reference hash) h
  outcome_direct _ s := by
    rw [Query.direct, Server.digest_of_ok h, pure_bind]
    exact Server.outcome_serve_bind _ _ s
  read _ _ _ ha := readsSorted_record (Asked.height_toJson_lt ha)

theorem serves_await {hash : String} {d : Digest} (h : Digest.ofText hash = .ok d) :
    Serves (.await hash) (.await d) (EntryRecord.ofEntry d) where
  asks _ := .await rfl (read_reference hash) h
  outcome_direct _ s := by
    rw [Query.direct, Server.digest_of_ok h, pure_bind]
    exact Server.outcome_serve_bind _ _ s
  read _ _ _ ha := readsSorted_record (Asked.height_toJson_lt ha)

theorem serves_list : Serves .list .digests (List.map Digest.toText) where
  asks _ := .digests rfl
  outcome_direct _ s := Server.outcome_serve_bind _ _ s
  read _ _ ds hds := by
    have htexts : Asked.digests.toJson ds = .array ((ds.map Digest.toText).map .string) := by
      rw [Asked.toJson, List.map_map]
      rfl
    have hheight := Nat.le_of_lt (Asked.height_toJson_lt hds)
    rw [htexts] at hheight ⊢
    exact Json.readsSorted_texts _ _ hheight

/-- A query is served unless a text in it that should be a digest is none. -/
theorem serves_or_fails (q : Query) :
    (∃ asked value, Serves q asked value) ∨ ∃ failure, Fails q failure := by
  cases q with
  | check source => exact .inl ⟨_, _, serves_check source⟩
  | create source operands =>
    rcases Server.mapM_digest operands with ⟨ds, hds, -⟩ | ⟨text, fault, -, hdigests⟩
    · exact .inl ⟨_, _, serves_create hds source⟩
    · refine .inr ⟨.badDigest text fault, fun registry => ⟨?_, fun id => ?_⟩⟩
      · rw [Query.direct, hdigests, Server.throw_bind]
      · have hread := read_create source operands id
        rw [Server.result_of_createEntry rfl, Server.params_of_some hread, pure_bind, hdigests,
          Server.throw_bind]
  | fetch hash =>
    rcases hdigest : Digest.ofText hash with fault | d
    · refine .inr ⟨.badDigest hash fault, fun registry => ⟨?_, fun id => ?_⟩⟩
      · rw [Query.direct, Server.digest_of_error hdigest, Server.throw_bind]
      · exact result_of_bad_reference (p := .named hash) (.inl rfl) (read_reference hash) hdigest
    · exact .inl ⟨_, _, serves_fetch hdigest⟩
  | await hash =>
    rcases hdigest : Digest.ofText hash with fault | d
    · refine .inr ⟨.badDigest hash fault, fun registry => ⟨?_, fun id => ?_⟩⟩
      · rw [Query.direct, Server.digest_of_error hdigest, Server.throw_bind]
      · exact result_of_bad_reference (p := .named hash) (.inr rfl) (read_reference hash) hdigest
    · exact .inl ⟨_, _, serves_await hdigest⟩
  | list => exact .inl ⟨_, _, serves_list⟩

/-- Queries come to an end if the moments that they ask for can be told, and the looks counted. -/
theorem exists_outcome_direct (hsettles : s.SettlesInTime)
    (hwaits : WaitsInTime registry.patience s.now) (q : Query) :
    ∃ r t, outcome (q.direct registry) s = (some r, t) := by
  rcases serves_or_fails q with ⟨asked, value, hserves⟩ | ⟨failure, hfails⟩
  · obtain ⟨r, t, hcall⟩ := Server.exists_outcome_call hsettles hwaits asked
    rw [hserves.outcome_direct, hcall]
    exact ⟨_, _, rfl⟩
  · rw [(hfails registry).1]
    exact ⟨_, _, rfl⟩

/-! ## Answer lines -/

/-- What a message tells whoever made a call. -/
def Call.told {α : Type} (call : Call α) : ServerMessage → Except Failure α
  | .response response =>
    match call.read Json.greatestHeight response.result.asWritten with
    | some a => .ok a
    | none =>
      .error (.unreadable (Wording.notJson ("result of " ++ call.method) response.result.bytes))
  | .error response => .error (.refused response.error)

/-- What a caller is told depends on the message alone. -/
theorem outcome_of_read? {α : Type} {call : Call α} {line : String} {message : ServerMessage}
    (h : Wire.read? ServerMessage.ofWritten? line = some message) :
    call.outcome line = call.told message := by
  rw [Call.outcome, h]
  cases message <;> rfl

/-- The request of a query is answered under its number with what the registry gives for the query,
    be it what went wrong. Where that breaks off there is no answer. -/
theorem answered (q : Query) (hid : id < 2 ^ 64) (registry : Registry) (s : Store) :
    match outcome (q.direct registry) s with
    | (some r, t) => ∃ message, AnswersWith registry s (q.call.line id) message t ∧
        message.id = id ∧ q.call.told message = r.mapError fun failure => .refused failure.toError
    | (none, t) => (Server.answer registry (q.call.line id)).run.run s = (none, t) := by
  have hreply := Server.run_reply_of_request registry s (read?_line q hid)
  rcases serves_or_fails q with ⟨asked, value, hserves⟩ | ⟨failure, hfails⟩
  · rw [Server.outcome_result_of_asks (hserves.asks id)] at hreply
    rw [hserves.outcome_direct]
    rcases hcall : outcome (asked.call registry) s with ⟨_ | rejection | a, t⟩ <;>
      rw [hcall] at hreply
    · dsimp only [Option.map_none]
      rw [Server.run_answer, hreply]
      rfl
    · exact ⟨_, Server.answersWith_error hid hreply, rfl, rfl⟩
    · have hvalue : (outcome (asked.call registry) s).1 = some (.ok a) := by rw [hcall]
      refine ⟨_, Server.answersWith_response hid hvalue hreply, rfl, ?_⟩
      rw [Call.told, hserves.read registry s a hvalue]
      rfl
  · obtain ⟨hdirect, hresult⟩ := hfails registry
    rw [hresult] at hreply
    rw [hdirect]
    exact ⟨_, Server.answersWith_error hid hreply, rfl, rfl⟩

/-- The server breaks off on a query if the registry does. -/
theorem run_answer_of_none {q : Query} (hid : id < 2 ^ 64)
    (hdirect : outcome (q.direct registry) s = (none, t)) :
    (Server.answer registry (q.call.line id)).run.run s = (none, t) := by
  have hanswered := answered q hid registry s
  rwa [hdirect] at hanswered

end

end Formulary.Client
