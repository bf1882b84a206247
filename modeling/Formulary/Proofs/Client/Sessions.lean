import Formulary.Prompt
import Formulary.Proofs.Client.Calls
import Formulary.Proofs.Text.Lines

/-!
# Sessions of a client

A client calls its server one query after the other (`perform`). The same queries can be put to the
registry in the same order, without any messages (`directly`); and the server sees a stream with one
line a request, which it answers line by line. These three go in step (`Exchanged`): the first line
of what is left to read is always the answer to the last request. So a client is told what the
registry gives, up to where something breaks off.

* `session_as_direct`: what a session comes to, seen from the client, the server and the registry;
* `closed_past_clock_end`: settings that are accepted, but let a call break off.
-/

namespace Formulary.Client

open Store (clockEnd outcome WaitsInTime)
open Wire

variable {registry : Registry} {session : Prompt.Session} {calls : Nat} {s t : Store}

/-! ## Request lines -/

/-- The lines that a client writes for queries after so many calls. -/
def requestLines (calls : Nat) : List Query → List String
  | [] => []
  | q :: qs => q.call.line (calls + 1) :: requestLines (calls + 1) qs

/-- No request line ends before its line feed. -/
theorem forall_mem_requestLines (queries : List Query) (hids : calls + queries.length < 2 ^ 64) :
    ∀ line ∈ requestLines calls queries, '\n' ∉ line.toList ∧ line.toList.getLast? ≠ some '\r' := by
  induction queries generalizing calls with
  | nil => exact nofun
  | cons q qs ih =>
    rw [List.length_cons] at hids
    refine List.forall_mem_cons.2 ⟨⟨onOneLine_line q (by omega), ?_⟩, ih (by omega)⟩
    rw [Call.line, Request.toJson, Json.getLast?_compact_object]
    decide

theorem getElem?_requestLines (queries : List Query) (k : Nat) :
    (requestLines calls queries)[k]? =
      queries[k]?.map fun q : Query => q.call.line (calls + k + 1) := by
  induction queries generalizing calls k with
  | nil => rfl
  | cons q qs ih =>
    cases k with
    | zero => rfl
    | succ k =>
      rw [requestLines, List.getElem?_cons_succ, List.getElem?_cons_succ, ih,
        Nat.add_right_comm calls 1 k]
      rfl

section

variable [Wording]

/-! ## Three sides of a session -/

/-- What the registry gives for a query. -/
abbrev Result := (q : Query) × Except Server.Failure q.Value

/-- What a client is told for a query. -/
abbrev Told := (q : Query) × Except String q.Value

/-- The text that tells of a failure: its message, and the data that goes with it in parentheses. -/
def tell (failure : Server.Failure) : String :=
  match failure.data with
  | some data => failure.message ++ " (" ++ data.compact ++ ")"
  | none => failure.message

/-- What a client is to be told of a result. -/
def Result.told (result : Result) : Told :=
  ⟨result.1, result.2.mapError tell⟩

/-- Puts queries to the registry itself, one after the other, up to the first that breaks off. -/
def directly (registry : Registry) : List Query → StateM Store (List Result × Ending)
  | [] => return ([], .well)
  | q :: qs => do
    match ← (q.direct registry).run.run with
    | none => return ([], .brokenOff)
    | some r => do
      let (results, ending) ← directly registry qs
      return (⟨q, r⟩ :: results, ending)

/-- Calls a server for queries, one after the other. -/
def perform : List Query → StateM Prompt.State (List Told)
  | [] => return []
  | q :: qs => do
    let told ← (Prompt.call q.call).run
    return ⟨q, told⟩ :: (← perform qs)

/-- What a client is told for queries from the one on which the server breaks off. -/
def unanswered : List Query → List Told
  | [] => []
  | q :: qs => ⟨q, .error Failure.closed.message⟩ ::
      qs.map fun q => ⟨q, .error Failure.broken.message⟩

/-- The line answers the request of the number, and tells of the result. -/
def Answers (result : Result) (id : Nat) (answer : String) : Prop :=
  ∃ message, Wire.read? ServerMessage.ofWritten? answer = some message ∧ message.id = id ∧
    (result.1.call.outcome answer).mapError Failure.message = result.2.mapError tell

/-! ## Steps -/

theorem exists_compact_of_answer {line answer : String}
    (h : (Server.answer registry line).run.run s = (some answer, t)) :
    ∃ members, answer = (Json.object members).compact := by
  rw [Server.run_answer] at h
  obtain ⟨message, -, rfl⟩ := Option.map_eq_some_iff.1 (Prod.mk.inj h).1
  have hobject : ∃ members, message.toJson = .object members := by
    cases message <;> exact ⟨_, rfl⟩
  exact hobject.imp fun members h => congrArg Json.compact h

theorem run_call {α : Type} (c : Call α) :
    (Prompt.call c).run.run ⟨session, calls, .serving registry, s⟩ =
      match (Server.answer registry (c.line (calls + 1))).run.run s with
      | (some answer, t) => ((c.outcome answer).mapError Failure.message,
          ⟨session, calls + 1, .serving registry, t⟩)
      | (none, t) => (.error Failure.closed.message, ⟨session, calls + 1, .broken, t⟩) := by
  have hget : (get : Prompt.Action Prompt.State).run.run ⟨session, calls, .serving registry, s⟩ =
      (.ok ⟨session, calls, .serving registry, s⟩, ⟨session, calls, .serving registry, s⟩) := rfl
  simp only [Prompt.call, ExceptT.run_bind, StateT.run_bind]
  rw [hget]
  rcases h : (Server.answer registry (c.line (calls + 1))).run.run s with ⟨_ | answer, t⟩
  · simp only [bind, h]
    rfl
  · simp only [bind, h]
    rcases c.outcome answer with failure | a
    · rfl
    · rfl

theorem run_perform_cons (q : Query) (qs : List Query) (state : Prompt.State) :
    (perform (q :: qs)).run state =
      (⟨q, ((Prompt.call q.call).run.run state).1⟩ ::
          ((perform qs).run ((Prompt.call q.call).run.run state).2).1,
        ((perform qs).run ((Prompt.call q.call).run.run state).2).2) :=
  rfl

/-- Nobody answers any more. -/
theorem run_perform_broken (qs : List Query) :
    (perform qs).run ⟨session, calls, .broken, s⟩ =
      (qs.map fun q => ⟨q, .error Failure.broken.message⟩,
        ⟨session, calls + qs.length, .broken, s⟩) := by
  induction qs generalizing calls with
  | nil => rfl
  | cons q qs ih =>
    have hcall : (Prompt.call q.call).run.run ⟨session, calls, .broken, s⟩ =
        (.error Failure.broken.message, ⟨session, calls + 1, .broken, s⟩) := rfl
    rw [run_perform_cons, hcall, ih, List.length_cons, Nat.add_right_comm, Nat.add_assoc]
    rfl

theorem run_directly_cons (q : Query) (qs : List Query) :
    (directly registry (q :: qs)).run s =
      match outcome (q.direct registry) s with
      | (some r, t) =>
        ((⟨q, r⟩ :: ((directly registry qs).run t).1.1, ((directly registry qs).run t).1.2),
          ((directly registry qs).run t).2)
      | (none, t) => (([], .brokenOff), t) := by
  rw [directly, outcome, StateT.run_bind]
  rcases (q.direct registry).run.run.run s with ⟨_ | r, t⟩ <;> rfl

theorem run_serve_cons {line : String} (hline : Text.isAllBlank line = false)
    (lines : List String) :
    (Prompt.serve registry (line :: lines)).run s =
      match (Server.answer registry line).run.run s with
      | (some answer, t) =>
        ((answer :: ((Prompt.serve registry lines).run t).1.1,
          ((Prompt.serve registry lines).run t).1.2), ((Prompt.serve registry lines).run t).2)
      | (none, t) => (([], .brokenOff), t) := by
  rw [Prompt.serve, if_neg (by simp [hline]), StateT.run_bind]
  rcases (Server.answer registry line).run.run s with ⟨_ | answer, t⟩ <;> rfl

/-! ## Sessions -/

/-- After so many calls the queries come to the results and the answer lines, and leave the store
    `t`. There are less of them than queries only if the next one breaks off. -/
inductive Exchanged (registry : Registry) :
    Nat → Store → List Query → List Result → List String → Ending → Store → Prop
  | nil (calls : Nat) (s : Store) : Exchanged registry calls s [] [] [] .well s
  | brokenOff {calls : Nat} {s t : Store} {q : Query} (qs : List Query)
      (hdirect : outcome (q.direct registry) s = (none, t))
      (hanswer : (Server.answer registry (q.call.line (calls + 1))).run.run s = (none, t)) :
      Exchanged registry calls s (q :: qs) [] [] .brokenOff t
  | answered {calls : Nat} {s t u : Store} {q : Query} {r : Except Server.Failure q.Value}
      {answer : String} {qs : List Query} {results : List Result} {answers : List String}
      {ending : Ending} (hdirect : outcome (q.direct registry) s = (some r, t))
      (hanswer : (Server.answer registry (q.call.line (calls + 1))).run.run s = (some answer, t))
      (honeLine : Json.OnOneLine answer) (htells : Answers ⟨q, r⟩ (calls + 1) answer)
      (h : Exchanged registry (calls + 1) t qs results answers ending u) :
      Exchanged registry calls s (q :: qs) (⟨q, r⟩ :: results) (answer :: answers) ending u

/-- Whatever the queries are they come to something, as long as requests can have their numbers. -/
theorem exists_exchanged (registry : Registry) (qs : List Query) (s : Store)
    (hids : calls + qs.length < 2 ^ 64) :
    ∃ results answers ending t, Exchanged registry calls s qs results answers ending t := by
  induction qs generalizing calls s with
  | nil => exact ⟨[], [], .well, s, .nil calls s⟩
  | cons q qs ih =>
    rw [List.length_cons] at hids
    have hid : calls + 1 < 2 ^ 64 := by omega
    have hanswered := answered q hid registry s
    rcases hdirect : outcome (q.direct registry) s with ⟨_ | r, t⟩ <;> rw [hdirect] at hanswered
    · exact ⟨_, _, _, _, .brokenOff qs hdirect hanswered⟩
    · obtain ⟨message, ⟨answer, hanswer, honeLine, hread⟩, hmessage, htold⟩ := hanswered
      have hlater : calls + 1 + qs.length < 2 ^ 64 := by omega
      obtain ⟨results, answers, ending, u, h⟩ := ih t hlater
      have htells : Answers ⟨q, r⟩ (calls + 1) answer := by
        refine ⟨message, hread, hmessage, ?_⟩
        rw [outcome_of_read? hread, htold]
        cases r <;> rfl
      exact ⟨_, _, _, _, .answered hdirect hanswer honeLine htells h⟩

namespace Exchanged

variable {queries : List Query} {results : List Result} {answers : List String} {ending : Ending}

theorem run_directly (h : Exchanged registry calls s queries results answers ending t) :
    (directly registry queries).run s = ((results, ending), t) := by
  induction h with
  | nil => rfl
  | brokenOff qs hdirect hanswer => rw [run_directly_cons, hdirect]
  | answered hdirect hanswer honeLine htells h ih => simp only [run_directly_cons, hdirect, ih]

theorem run_serve (h : Exchanged registry calls s queries results answers ending t) :
    (Prompt.serve registry (requestLines calls queries)).run s = ((answers, ending), t) := by
  induction h with
  | nil => rfl
  | brokenOff qs hdirect hanswer =>
    rw [requestLines, run_serve_cons (isAllBlank_line _ _), hanswer]
  | answered hdirect hanswer honeLine htells h ih =>
    rw [requestLines, run_serve_cons (isAllBlank_line _ _), hanswer]
    simp only [ih]

theorem run_perform (h : Exchanged registry calls s queries results answers ending t) :
    (perform queries).run ⟨session, calls, .serving registry, s⟩ =
      (results.map Result.told ++ unanswered (queries.drop results.length),
        ⟨session, calls + queries.length,
          if ending = .well then .serving registry else .broken, t⟩) := by
  induction h with
  | nil => rfl
  | @brokenOff calls s t q qs hdirect hanswer =>
    rw [run_perform_cons, run_call, hanswer, run_perform_broken, List.length_cons,
      Nat.add_right_comm, Nat.add_assoc]
    rfl
  | @answered calls s t u q r answer qs results answers ending hdirect hanswer _ htells h ih =>
    obtain ⟨message, -, -, htold⟩ := htells
    rw [run_perform_cons, run_call, hanswer]
    dsimp only at htold ⊢
    rw [htold, ih, Nat.add_assoc, Nat.add_comm 1]
    rfl

/-- The answers are a stream of lines, one each. -/
theorem lines_answers (h : Exchanged registry calls s queries results answers ending t) :
    Text.lines (Text.unlines answers) = answers := by
  refine Text.lines_unlines ?_
  induction h with
  | nil => exact nofun
  | brokenOff => exact nofun
  | answered hdirect hanswer honeLine htells h ih =>
    obtain ⟨members, rfl⟩ := exists_compact_of_answer hanswer
    refine List.forall_mem_cons.2 ⟨⟨honeLine, ?_⟩, ih⟩
    rw [Json.getLast?_compact_object]
    decide

/-- There is one answer for each result, in order, and it has the number of its request. -/
theorem answers_result (h : Exchanged registry calls s queries results answers ending t) :
    answers.length = results.length ∧ ∀ (k : Nat) (result : Result) (answer : String),
      results[k]? = some result → answers[k]? = some answer →
        Answers result (calls + k + 1) answer := by
  induction h with
  | nil => exact ⟨rfl, fun k result answer hresult => by simp at hresult⟩
  | brokenOff => exact ⟨rfl, fun k result answer hresult => by simp at hresult⟩
  | @answered calls s t u q r answer qs results answers ending _ _ _ htells h ih =>
    refine ⟨congrArg (· + 1) ih.1, fun k => ?_⟩
    intro result answer hresult hanswer
    cases k with
    | zero =>
      rw [List.getElem?_cons_zero] at hresult hanswer
      obtain rfl := Option.some.inj hresult
      obtain rfl := Option.some.inj hanswer
      exact htells
    | succ k =>
      rw [List.getElem?_cons_succ] at hresult hanswer
      have hlater := ih.2 k result answer hresult hanswer
      rwa [Nat.add_right_comm calls 1 k] at hlater

/-- What is left over is what came after a query that broke off. -/
theorem length_results (h : Exchanged registry calls s queries results answers ending t) :
    results.map Sigma.fst = queries.take results.length ∧
      (ending = .well ∧ results.length = queries.length ∨
        ending = .brokenOff ∧ ∃ q u, queries[results.length]? = some q ∧
          outcome (q.direct registry) u = (none, t)) := by
  induction h with
  | nil => exact ⟨rfl, .inl ⟨rfl, rfl⟩⟩
  | brokenOff qs hdirect hanswer => exact ⟨rfl, .inr ⟨rfl, _, _, rfl, hdirect⟩⟩
  | answered hdirect hanswer honeLine htells h ih =>
    obtain ⟨hqueries, ⟨hwell, hlength⟩ | ⟨hbroken, q, u, hq, hu⟩⟩ := ih
    · exact ⟨by simpa using hqueries, .inl ⟨hwell, congrArg (· + 1) hlength⟩⟩
    · exact ⟨by simpa using hqueries, .inr ⟨hbroken, q, u, by simpa using hq, hu⟩⟩

end Exchanged

/-- A session of a client, with any registry over any store and any queries.
    - The request of each query is one line that is not blank, and read as that request.
    - The same queries put to the registry itself have results, up to one that breaks off. The
      client is told these results, what failed by its message and data, and is left without an
      answer from there on. It leaves the same store.
    - From the stream of request lines the server makes a stream of answer lines, one for each
      result. The answer to a request has its number and tells its result.
    - No query breaks off as long as the delay and the timeout end before the clock does, and the
      looks within the timeout can be counted. -/
theorem session_as_direct (registry : Registry) (s : Store) (session : Prompt.Session)
    (calls : Nat) (queries : List Query) (hids : calls + queries.length < 2 ^ 64) :
    (∀ (k : Nat) (q : Query), queries[k]? = some q → ∃ line,
      (requestLines calls queries)[k]? = some line ∧
      Json.OnOneLine line ∧ Text.isAllBlank line = false ∧
      Wire.read? Request.ofWritten? line = some (q.call.request (calls + k + 1))) ∧
    (∃ results answers ending t,
      (directly registry queries).run s = ((results, ending), t) ∧
      results.map Sigma.fst = queries.take results.length ∧
      (ending = .well ∧ results.length = queries.length ∨
        ending = .brokenOff ∧ ∃ q u, queries[results.length]? = some q ∧
          outcome (q.direct registry) u = (none, t)) ∧
      (perform queries).run ⟨session, calls, .serving registry, s⟩ =
        (results.map Result.told ++ unanswered (queries.drop results.length),
          ⟨session, calls + queries.length,
            if ending = .well then .serving registry else .broken, t⟩) ∧
      (Prompt.serve registry (Text.lines (Text.unlines (requestLines calls queries)))).run s =
        ((answers, ending), t) ∧
      Text.lines (Text.unlines answers) = answers ∧ answers.length = results.length ∧
      ∀ (k : Nat) (result : Result) (answer : String), results[k]? = some result →
        answers[k]? = some answer → Answers result (calls + k + 1) answer) ∧
    ∀ (q : Query) (u : Store), u.SettlesInTime → WaitsInTime registry.patience u.now →
      ∃ r v, outcome (q.direct registry) u = (some r, v) := by
  refine ⟨fun k q hq => ?_, ?_, fun q u hsettles hwaits => exists_outcome_direct hsettles hwaits q⟩
  · have hk : k < queries.length := (List.getElem?_eq_some_iff.1 hq).1
    have hid : calls + k + 1 < 2 ^ 64 := by omega
    have hline : (requestLines calls queries)[k]? = some (q.call.line (calls + k + 1)) := by
      rw [getElem?_requestLines, hq]
      rfl
    exact ⟨_, hline, onOneLine_line q hid, isAllBlank_line q _, read?_line q hid⟩
  · obtain ⟨results, answers, ending, t, h⟩ := exists_exchanged registry queries s hids
    obtain ⟨hqueries, hending⟩ := h.length_results
    obtain ⟨hlength, hanswers⟩ := h.answers_result
    refine ⟨results, answers, ending, t, h.run_directly, hqueries, hending, h.run_perform, ?_,
      h.lines_answers, hlength, hanswers⟩
    rw [Text.lines_unlines (forall_mem_requestLines queries hids)]
    exact h.run_serve

/-- Whoever waits past the end of the clock is left without an answer, whatever is there. -/
theorem closed_of_await (d : Digest) (hclock : clockEnd ≤ s.now + registry.patience.timeout)
    (hid : calls + 1 < 2 ^ 64) :
    ((Prompt.call (Query.await d.toText).call).run.run
      ⟨session, calls, .serving registry, s⟩).1 = .error Failure.closed.message := by
  have hawait : (outcome (registry.await d) s).1 = none :=
    Registry.outcome_await_eq_none_iff.2
      ((Store.outcome_await_eq_none_iff d registry.patience s).2 (.inl hclock))
  have hcall : outcome ((Server.Asked.await d).call registry) s =
      (none, (outcome (registry.await d) s).2) := Prod.ext hawait rfl
  have hdirect : outcome ((Query.await d.toText).direct registry) s =
      (none, (outcome (registry.await d) s).2) := by
    rw [(serves_await (Digest.ofText_toText d)).outcome_direct, hcall]
    rfl
  rw [run_call, run_answer_of_none hid hdirect]

end

/-- A program is checked, and what is no digest is told of with a line feed in it. -/
theorem session_as_direct_check :
    let _ : Wording := ⟨fun _ _ => "unreadable JSON", fun _ => "unreadable TOML"⟩
    ((perform [.check "(f  x)", .fetch "\n"]).run ⟨.initial, 0,
        .serving ⟨32, ⟨.millis 50, .secs 5⟩⟩, .inMemory (some 5) .empty 0⟩).1 =
      [⟨.check "(f  x)", .ok ⟨true, some "(f x)", none, none⟩⟩,
        ⟨.fetch "\n", .error "Invalid params (\"\\n: Entry hash must be 32 bytes, got 0\")"⟩] := by
  intro _
  let registry : Registry := ⟨32, ⟨.millis 50, .secs 5⟩⟩
  let s : Store := .inMemory (some 5) .empty 0
  let queries : List Query := [.check "(f  x)", .fetch "\n"]
  obtain ⟨-, ⟨results, answers, ending, t, hdirect, -, -, hperform, -⟩, -⟩ :=
    session_as_direct registry s .initial 0 queries (by decide)
  have hresults : ((directly registry queries).run s).1 =
      ([⟨.check "(f  x)", .ok ⟨true, some "(f x)", none, none⟩⟩,
        ⟨.fetch "\n", .error (.badDigest "\n" (.invalidLength 0))⟩], .well) := by
    obtain ⟨log, hcheck⟩ := Server.outcome_call_check registry "(f  x)" s
    have hverdict : registry.verdict "(f  x)" = .ok (.apply (.symbol "f") [.symbol "x"]) := by
      decide +kernel
    rw [run_directly_cons, (serves_check _).outcome_direct, hcheck, hverdict]
    rfl
  rw [hdirect] at hresults
  obtain ⟨rfl, rfl⟩ := Prod.mk.inj hresults
  rw [hperform]
  rfl

/-- Settings with a timeout that ends after the clock are accepted, but a client that waits for an
    entry is left without an answer then, though the entry is there and can be fetched. -/
theorem closed_past_clock_end :
    let _ : Wording := ⟨fun _ _ => "unreadable JSON", fun _ => "unreadable TOML"⟩
    let settings : Settings :=
      ⟨32, .memory, "", none, ⟨.millis 50, .secs 18446744073709551615⟩, "info"⟩
    let entry : Entry := ⟨"x", .symbol "x", []⟩
    let s : Store :=
      { Store.inMemory none .empty 0 with shelf := .memory [(entry.digest, entry.encode)] }
    settings.validate = .ok () ∧
      outcome (Registry.fetch entry.digest) s = (some (.ok entry), s) ∧
      ((Prompt.call (Client.await entry.digest.toText)).run.run
        ⟨.initial, 0, .serving (.ofSettings settings), s⟩).1 =
          .error "Server closed the connection" := by
  intro _ settings entry s
  have hclock : clockEnd ≤ s.now + (Registry.ofSettings settings).patience.timeout := by decide
  refine ⟨by decide, ?_, closed_of_await entry.digest hclock (by decide)⟩
  have hbytes : s.bytes? entry.digest = .ok (some entry.encode) := by
    simp [s, Store.bytes?]
  exact Registry.outcome_fetch_of_bytes hbytes rfl
    (Entry.decode_encode_of_formDepth_le (by decide)) (by decide +kernel)

end Formulary.Client
