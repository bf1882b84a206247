import Formulary.Proofs.Registry.Retrieval
import Formulary.Server

/-!
# What requests ask for

A request whose method is known and whose parameters can be read asks for a call of the registry
(`Asks`), and is answered with what this call gives (`outcome_result_of_asks`). Any other request
fails before anything is called.
-/

namespace Formulary.Server

open Store (outcome outcome_adapt outcome_bind outcome_liftM)
open Wire

/-! ## Calls -/

/-- A call of a registry. -/
inductive Asked
  | accepts (source : String)
  | check (source : String)
  | create (source : String) (operands : List Digest)
  | fetch (d : Digest)
  | await (d : Digest)
  | digests

namespace Asked

/-- What a call gives. A check gives its verdict, be it that the program is rejected. -/
abbrev Value : Asked → Type
  | accepts _ => Bool
  | check _ => Except Rejection Expr
  | create _ _ => Digest
  | fetch _ => Entry
  | await _ => Entry
  | digests => List Digest

/-- The call itself. -/
def call (registry : Registry) : (asked : Asked) → Registry.Request asked.Value
  | accepts source => liftM (registry.accepts source)
  | check source => liftM (registry.check source).run
  | create source operands => registry.create source operands
  | fetch d => Registry.fetch d
  | await d => registry.await d
  | digests => Registry.digests

/-- What is sent of the value. -/
def toJson [Wording] : (asked : Asked) → asked.Value → Json
  | accepts _, b => .bool b
  | check _, verdict => (checkResult verdict).toJson
  | create _ _, d => .string d.toText
  | fetch d, entry => (EntryRecord.ofEntry d entry).toJson
  | await d, entry => (EntryRecord.ofEntry d entry).toJson
  | digests, ds => .array (ds.map Digest.toJson)

end Asked

/-- The methods that a server knows. -/
def methods : List String :=
  [testOutput, Wire.check, createEntry, getEntry, awaitEntry, listEntries]

/-- The request has a known method, and its parameters read as those of the call. -/
inductive Asks (request : Wire.Request) : Asked → Prop
  | accepts {p : TestOutputParams} (hmethod : request.method = testOutput)
      (hparams :
        TestOutputParams.ofWritten? Json.greatestHeight request.params.asWritten = some p) :
      Asks request (.accepts p.source)
  | check {p : TestOutputParams} (hmethod : request.method = Wire.check)
      (hparams :
        TestOutputParams.ofWritten? Json.greatestHeight request.params.asWritten = some p) :
      Asks request (.check p.source)
  | create {p : CreateEntryParams} {operands : List Digest} (hmethod : request.method = createEntry)
      (hparams : CreateEntryParams.ofWritten? Json.greatestHeight request.params.asWritten = some p)
      (hoperands : p.operands.mapM Digest.ofText = .ok operands) :
      Asks request (.create p.source operands)
  | fetch {p : EntryRef} {d : Digest} (hmethod : request.method = getEntry)
      (hparams : EntryRef.ofWritten? Json.greatestHeight request.params.asWritten = some p)
      (hdigest : Digest.ofText p.hash = .ok d) : Asks request (.fetch d)
  | await {p : EntryRef} {d : Digest} (hmethod : request.method = awaitEntry)
      (hparams : EntryRef.ofWritten? Json.greatestHeight request.params.asWritten = some p)
      (hdigest : Digest.ofText p.hash = .ok d) : Asks request (.await d)
  | digests (hmethod : request.method = listEntries) : Asks request .digests

/-! ## Parameters -/

variable {α β : Type} {registry : Registry} {request : Wire.Request}

/-- Nothing comes after a failure. -/
theorem throw_bind (failure : Failure) (f : α → Answer β) :
    (throw failure >>= f : Answer β) = throw failure := rfl

theorem params_of_some [Wording] {read : Nat → Json.Written → Option α} {a : α}
    (h : read Json.greatestHeight request.params.asWritten = some a) :
    params request read = pure a := by
  rw [params, h]

theorem params_of_none [Wording] {read : Nat → Json.Written → Option α}
    (h : read Json.greatestHeight request.params.asWritten = none) :
    ∃ said, params request read = throw (.badParams said) := by
  rw [params, h]
  exact ⟨_, rfl⟩

/-- Parameters are read, or it fails whatever comes after. -/
theorem params_cases [Wording] (request : Wire.Request) (read : Nat → Json.Written → Option α) :
    (∃ p, read Json.greatestHeight request.params.asWritten = some p) ∨
    ∃ failure : Failure, failure.code = -32602 ∧
      ∀ f : α → Answer β, (params request read >>= f) = throw failure := by
  rcases hparams : read Json.greatestHeight request.params.asWritten with _ | p
  · obtain ⟨said, hthrow⟩ := params_of_none hparams
    exact .inr ⟨.badParams said, rfl, fun f => by rw [hthrow, throw_bind]⟩
  · exact .inl ⟨p, rfl⟩

theorem digest_of_ok {text : String} {d : Digest} (h : Digest.ofText text = .ok d) :
    digest text = pure d := by
  rw [digest, h]

theorem digest_of_error {text : String} {fault : Digest.Fault}
    (h : Digest.ofText text = .error fault) : digest text = throw (.badDigest text fault) := by
  rw [digest, h]

/-- Digests are read one after the other, up to the first text that is none. -/
theorem mapM_digest (texts : List String) :
    (∃ ds, texts.mapM Digest.ofText = .ok ds ∧ texts.mapM digest = pure ds) ∨
    ∃ text fault, texts.mapM Digest.ofText = .error fault ∧
      texts.mapM digest = throw (.badDigest text fault) := by
  induction texts with
  | nil => exact .inl ⟨[], rfl, rfl⟩
  | cons text texts ih =>
    rw [List.mapM_cons, List.mapM_cons]
    rcases htext : Digest.ofText text with fault | d
    · exact .inr ⟨text, fault, rfl, by rw [digest_of_error htext, throw_bind]⟩
    · rw [digest_of_ok htext, pure_bind]
      rcases ih with ⟨ds, hread, hdigests⟩ | ⟨text, fault, hread, hdigests⟩ <;>
        rw [hread, hdigests]
      · exact .inl ⟨d :: ds, rfl, pure_bind ds _⟩
      · exact .inr ⟨text, fault, rfl, rfl⟩

/-! ## Results -/

/-- What a call of the registry gives is passed on, and so is its rejection. -/
theorem outcome_serve_bind (x : Registry.Request α) (f : α → β) (s : Store) :
    outcome (serve x >>= fun a => pure (f a)) s =
      ((outcome x s).1.map fun r => (r.mapError Failure.rejected).map f, (outcome x s).2) := by
  rw [outcome_bind, serve, outcome_adapt]
  rcases outcome x s with ⟨_ | _ | a, t⟩ <;> rfl

/-- What cannot be rejected gives a value or breaks off. -/
theorem outcome_liftM_bind (x : Store.Run α) (f : α → β) (s : Store) :
    outcome ((liftM x : Answer α) >>= fun a => pure (f a)) s =
      ((outcome (liftM x : Registry.Request α) s).1.map fun r =>
        (r.mapError Failure.rejected).map f, (outcome (liftM x : Registry.Request α) s).2) := by
  rw [outcome_bind, outcome_liftM, outcome_liftM]
  rcases x.run.run s with ⟨_ | a, t⟩ <;> rfl

section

variable [Wording]

/-! ### By method -/

theorem result_of_testOutput (h : request.method = testOutput) :
    result registry request = (do
      let p ← params request TestOutputParams.ofWritten?
      return .bool (← registry.accepts p.source)) := by
  rw [result, if_pos h]

theorem result_of_check (h : request.method = Wire.check) :
    result registry request = (do
      let p ← params request TestOutputParams.ofWritten?
      let outcome ← liftM (registry.check p.source).run
      return (checkResult outcome).toJson) := by
  rw [result, if_neg (by rw [h]; decide), if_pos h]

theorem result_of_createEntry (h : request.method = createEntry) :
    result registry request = (do
      let p ← params request CreateEntryParams.ofWritten?
      let operands ← p.operands.mapM digest
      let d ← serve (registry.create p.source operands)
      return .string d.toText) := by
  rw [result]
  iterate 2 rw [if_neg (by rw [h]; decide)]
  rw [if_pos h]

theorem result_of_getEntry (h : request.method = getEntry) :
    result registry request = (do
      let p ← params request EntryRef.ofWritten?
      let d ← digest p.hash
      return (EntryRecord.ofEntry d (← serve (Registry.fetch d))).toJson) := by
  rw [result]
  iterate 3 rw [if_neg (by rw [h]; decide)]
  rw [if_pos h]

theorem result_of_awaitEntry (h : request.method = awaitEntry) :
    result registry request = (do
      let p ← params request EntryRef.ofWritten?
      let d ← digest p.hash
      return (EntryRecord.ofEntry d (← serve (registry.await d))).toJson) := by
  rw [result]
  iterate 4 rw [if_neg (by rw [h]; decide)]
  rw [if_pos h]

theorem result_of_listEntries (h : request.method = listEntries) :
    result registry request = (do
      let ds ← serve Registry.digests
      return .array (ds.map Digest.toJson)) := by
  rw [result]
  iterate 5 rw [if_neg (by rw [h]; decide)]
  rw [if_pos h]

/-- A request of a method that is not known is refused. -/
theorem result_of_unknown (h : request.method ∉ methods) :
    result registry request = throw .unknownMethod := by
  simp only [methods, List.mem_cons, List.not_mem_nil, or_false, not_or] at h
  obtain ⟨h₁, h₂, h₃, h₄, h₅, h₆⟩ := h
  rw [result, if_neg h₁, if_neg h₂, if_neg h₃, if_neg h₄, if_neg h₅, if_neg h₆]

/-! ### By what is asked -/

/-- A request that can be read is answered with what its call gives. -/
theorem outcome_result_of_asks {asked : Asked} (h : Asks request asked) (s : Store) :
    outcome (result registry request) s =
      ((outcome (asked.call registry) s).1.map fun r =>
        (r.mapError Failure.rejected).map asked.toJson, (outcome (asked.call registry) s).2) := by
  cases h with
  | accepts hmethod hparams =>
    rw [result_of_testOutput hmethod, params_of_some hparams]
    exact outcome_liftM_bind _ _ s
  | check hmethod hparams =>
    rw [result_of_check hmethod, params_of_some hparams]
    exact outcome_liftM_bind _ _ s
  | @create p operands hmethod hparams hoperands =>
    rw [result_of_createEntry hmethod, params_of_some hparams, pure_bind]
    rcases mapM_digest p.operands with ⟨ds, hread, hdigests⟩ | ⟨text, fault, hread, -⟩ <;>
      rw [hread] at hoperands
    · rw [hdigests, pure_bind, Except.ok.inj hoperands]
      exact outcome_serve_bind _ _ s
    · cases hoperands
  | fetch hmethod hparams hdigest =>
    rw [result_of_getEntry hmethod, params_of_some hparams, pure_bind, digest_of_ok hdigest,
      pure_bind]
    exact outcome_serve_bind _ _ s
  | await hmethod hparams hdigest =>
    rw [result_of_awaitEntry hmethod, params_of_some hparams, pure_bind, digest_of_ok hdigest,
      pure_bind]
    exact outcome_serve_bind _ _ s
  | digests hmethod =>
    rw [result_of_listEntries hmethod]
    exact outcome_serve_bind _ _ s

/-- What refers to an entry denotes a digest, or fails whatever comes after. -/
theorem entryRef_cases (request : Wire.Request) :
    (∃ p d, EntryRef.ofWritten? Json.greatestHeight request.params.asWritten = some p ∧
      Digest.ofText p.hash = .ok d) ∨
    ∃ failure : Failure, failure.code = -32602 ∧ ∀ f : Digest → Answer Json,
      (params request EntryRef.ofWritten? >>= fun p => digest p.hash >>= f) = throw failure := by
  rcases params_cases request EntryRef.ofWritten? with ⟨p, hparams⟩ | ⟨failure, hcode, hthrow⟩
  · rcases hdigest : Digest.ofText p.hash with fault | d
    · refine .inr ⟨.badDigest p.hash fault, rfl, fun f => ?_⟩
      rw [params_of_some hparams, pure_bind, digest_of_error hdigest, throw_bind]
    · exact .inl ⟨p, d, hparams, hdigest⟩
  · exact .inr ⟨failure, hcode, fun _ => hthrow _⟩

/-- A request of a known method that cannot be read fails for its parameters. -/
theorem exists_failure_of_not_asks (registry : Registry) (hmethod : request.method ∈ methods)
    (hnone : ∀ asked, ¬Asks request asked) :
    ∃ failure : Failure, failure.code = -32602 ∧ result registry request = throw failure := by
  simp only [methods, List.mem_cons, List.not_mem_nil, or_false] at hmethod
  -- whatever can be read asks for something, so it is the reading that fails
  rcases hmethod with h | h | h | h | h | h
  · rcases params_cases request TestOutputParams.ofWritten? with
      ⟨p, hparams⟩ | ⟨failure, hcode, hthrow⟩
    · exact absurd (.accepts h hparams) (hnone _)
    · exact ⟨failure, hcode, by rw [result_of_testOutput h, hthrow]⟩
  · rcases params_cases request TestOutputParams.ofWritten? with
      ⟨p, hparams⟩ | ⟨failure, hcode, hthrow⟩
    · exact absurd (.check h hparams) (hnone _)
    · exact ⟨failure, hcode, by rw [result_of_check h, hthrow]⟩
  · rcases params_cases request CreateEntryParams.ofWritten? with
      ⟨p, hparams⟩ | ⟨failure, hcode, hthrow⟩
    · rcases mapM_digest p.operands with ⟨ds, hread, -⟩ | ⟨text, fault, -, hdigests⟩
      · exact absurd (.create h hparams hread) (hnone _)
      · refine ⟨.badDigest text fault, rfl, ?_⟩
        rw [result_of_createEntry h, params_of_some hparams, pure_bind, hdigests, throw_bind]
    · exact ⟨failure, hcode, by rw [result_of_createEntry h, hthrow]⟩
  · rcases entryRef_cases request with ⟨p, d, hparams, hdigest⟩ | ⟨failure, hcode, hthrow⟩
    · exact absurd (.fetch h hparams hdigest) (hnone _)
    · exact ⟨failure, hcode, by rw [result_of_getEntry h, hthrow]⟩
  · rcases entryRef_cases request with ⟨p, d, hparams, hdigest⟩ | ⟨failure, hcode, hthrow⟩
    · exact absurd (.await h hparams hdigest) (hnone _)
    · exact ⟨failure, hcode, by rw [result_of_awaitEntry h, hthrow]⟩
  -- to list entries takes no parameters
  · exact absurd (.digests h) (hnone _)

end

end Formulary.Server
