import Formulary.Proofs.Registry.Clock
import Formulary.Proofs.Registry.Operands

/-!
# What the log shows of a request

A program that is to be stored passes the stages in order, and the log shows one event for each that
it has passed. One that is rejected passes those before the step that fails, and is shown as
rejected after the last of them. Only where an operand cannot be looked for the log ends without a
word (`lookFails`).

* `Logs`: the log has come to show stages, and then an ending;
* `logs_create`: what the log shows of a program that is to be stored, however that ends.
-/

namespace Formulary

/-- The stages of a program that is accepted and stored. -/
def Stage.passage : List Stage :=
  [received, lexed, parsed, validated, stored, done]

/-- The stages up to one of them. -/
def Stage.upTo (stage : Stage) : List Stage :=
  passage.takeWhile (· ≠ stage) ++ [stage]

/-- The event that a rejected request is to end in. -/
def Rejection.event (rejection : Rejection) : Event :=
  .rejected rejection.reached rejection

namespace Store

variable {s t u : Store} {stages : List Stage} {ending : List Event}

/-! ## What writing logs -/

theorem log_settle (d : Digest) (s : Store) : ((settle d).run.run s).2.log = s.log := by
  rcases hsettling : s.settling with _ | settling
  · rw [run_settle_of_none d hsettling]
  · rw [run_settle_of_some d hsettling]
    split_ifs <;> rfl

theorem log_write (d : Digest) (b : Bytes) (s : Store) : (outcome (write d b) s).2.log = s.log := by
  obtain ⟨error | written, shelf, disk, h⟩ := exists_outcome_writeToShelf d b s
  · rw [write, outcome_bind_of_error h]
  · rw [write, outcome_bind_of_ok h]
    cases written with
    | false => rfl
    | true =>
      have hlog := log_settle d { s with shelf, disk }
      rw [if_pos rfl, outcome_bind, outcome_liftM]
      revert hlog
      rcases (settle d).run.run { s with shelf, disk } with ⟨_ | _, t⟩ <;> exact id

/-! ## Logs that show stages -/

/-- From `s` to `t` the log has come to show the stages, one event for each, and then the ending.
    What else was logged marks no stage. -/
def Logs (s t : Store) (stages : List Stage) (ending : List Event) : Prop :=
  ∃ events passed, t.log = s.log ++ events ∧
    events.filter (·.stage?.isSome) = passed ++ ending ∧ passed.map Event.stage? = stages.map some

namespace Logs

/-- The event of a stage is shown. -/
theorem of_stage (s : Store) {e : Event} {stage : Stage} (h : e.stage? = some stage) :
    Logs s { s with log := s.log ++ [e] } [stage] [] := by
  refine ⟨[e], [e], rfl, ?_, by simp [h]⟩
  rw [List.append_nil, List.filter_eq_self]
  simp [h]

/-- So is a rejection, after the stages. -/
theorem of_rejection (s : Store) (rejection : Rejection) :
    Logs s { s with log := s.log ++ [rejection.event] } [] [rejection.event] :=
  ⟨[rejection.event], [], rfl, rfl, rfl⟩

/-- Events that mark no stage are not shown. -/
theorem of_aside {events : List Event} (hlog : t.log = s.log ++ events)
    (haside : ∀ e ∈ events, e.stage? = none) : Logs s t [] [] := by
  refine ⟨events, [], hlog, ?_, rfl⟩
  rw [List.append_nil, List.filter_eq_nil_iff]
  exact fun e he => by simp [haside e he]

theorem of_log_eq (hlog : t.log = s.log) : Logs s t [] [] :=
  ⟨[], [], by rw [hlog, List.append_nil], rfl, rfl⟩

theorem trans {more : List Stage} (h : Logs s t stages []) (h' : Logs t u more ending) :
    Logs s u (stages ++ more) ending := by
  obtain ⟨events, passed, hlog, hfilter, hpassed⟩ := h
  obtain ⟨events', passed', hlog', hfilter', hpassed'⟩ := h'
  refine ⟨events ++ events', passed ++ passed', ?_, ?_, ?_⟩
  · rw [hlog', hlog, List.append_assoc]
  · rw [List.filter_append, hfilter, hfilter', List.append_nil, List.append_assoc]
  · rw [List.map_append, List.map_append, hpassed, hpassed']

end Logs

/-- Putting an entry marks no stage, be it new or not, or the disk fail, or the clock end. -/
theorem logs_put (entry : Entry) (s : Store) : Logs s (outcome (put entry) s).2 [] [] := by
  have hlog := log_write entry.digest entry.encode s
  rw [put, outcome_bind]
  revert hlog
  rcases outcome (write entry.digest entry.encode) s with ⟨_ | _ | written, t⟩ <;> intro hlog
  · exact .of_log_eq hlog
  · exact .of_log_eq hlog
  · cases written with
    | false =>
      refine .of_aside (congrArg (· ++ [Event.alreadyWritten entry.digest]) hlog) ?_
      simp [Event.stage?]
    | true =>
      refine .of_aside (congrArg (· ++ [Event.written entry.digest]) hlog) ?_
      simp [Event.stage?]

end Store

/-! ## What requests log -/

namespace Registry

open Store (outcome outcome_bind outcome_bind_of_error outcome_bind_of_none outcome_bind_of_ok
  outcome_emit outcome_liftM Logs Looked)

/-- A check passes four stages, or is shown as rejected after the last one that it has passed. -/
theorem logs_check (registry : Registry) (source : String) (s : Store) :
    match registry.verdict source with
    | .ok _ => Logs s (outcome (registry.check source) s).2 (Stage.upTo .validated) []
    | .error rejection =>
      Logs s (outcome (registry.check source) s).2 (Stage.upTo rejection.reached)
        [rejection.event] := by
  have hlexed := (Logs.of_stage s (e := .received source.utf8ByteSize) rfl).trans
    (.of_stage _ (e := .lexed (Token.tokenize source).length) rfl)
  unfold check verdict Expr.parse
  rw [outcome_bind_of_ok (outcome_emit _ s), outcome_bind_of_ok (outcome_emit _ _)]
  dsimp only
  rcases Expr.Parse.tokens registry.depthLimit (Token.tokenize source) with error | tree
  · exact hlexed.trans (.of_rejection _ (.unparsable error))
  · have hread (t : Store) :
        outcome (orReject (Except.mapError Rejection.unparsable (.ok tree))) t =
          (some (.ok tree), t) := rfl
    have hparsed := hlexed.trans (.of_stage _ (e := .parsed tree.nodeCount) rfl)
    rw [outcome_bind_of_ok (hread _), outcome_bind_of_ok (outcome_emit _ _)]
    dsimp only
    rcases tree.validate with violation | _
    · exact hparsed.trans (.of_rejection _ (.invalid violation))
    · exact hparsed.trans (.of_stage _ (e := .validated) rfl)

/-- An operand cannot be looked for, and those before it are visible. -/
def lookFails (s : Store) (operands : List Digest) : Bool :=
  match operandsVerdict s operands with
  | .error (.store _) => true
  | _ => false

/-- Looks before make no difference. -/
theorem lookFails_of_looked {s t : Store} (h : Looked s t) (operands : List Digest) :
    lookFails t operands = lookFails s operands := by
  rw [lookFails, operandsVerdict_of_looked h, lookFails]

/-- Operands that are visible are not shown, and one that is missing is shown as rejected. -/
theorem logs_checkOperands (operands : List Digest) (s : Store) :
    match operandsVerdict s operands with
    | .ok () => Logs s (outcome (checkOperands operands) s).2 [] []
    | .error rejection =>
      rejection.reached = .validated ∧
        Logs s (outcome (checkOperands operands) s).2 []
          (if lookFails s operands then [] else [rejection.event]) := by
  induction operands generalizing s with
  | nil => exact .of_log_eq rfl
  | cons d ds ih =>
    have hlooked := Looked.lookedAt s d
    have hlook : Logs s (s.lookedAt d) [] [] := .of_log_eq (Store.log_lookedAt s d)
    have hrest := ih (s.lookedAt d)
    rw [operandsVerdict_of_looked hlooked, lookFails_of_looked hlooked] at hrest
    unfold checkOperands operandsVerdict lookFails
    rw [outcome_bind, outcome_onStore_holds, operandsVerdict]
    rcases s.fetch? d with error | _ | b
    · exact ⟨rfl, hlook⟩
    · exact ⟨rfl, hlook.trans (.of_rejection _ (.missingOperand d))⟩
    · -- nothing is logged of an operand that is visible
      rw [lookFails] at hrest
      revert hrest
      rcases operandsVerdict s ds with rejection | _ <;> intro hrest
      · exact ⟨hrest.1, hlook.trans hrest.2⟩
      · exact hlook.trans hrest

/-- Storing an entry passes the last two stages, or is shown as rejected before them, or breaks off
    there. -/
theorem logs_storeEntry (entry : Entry) (s : Store) :
    match outcome (storeEntry entry) s with
    | (some (.ok _), t) => Logs s t [.stored, .done] []
    | (some (.error rejection), t) => rejection.reached = .validated ∧
        Logs s t [] (if lookFails s entry.operands then [] else [rejection.event])
    | (none, t) => Logs s t [] [] := by
  obtain ⟨u, -, hoperands⟩ := outcome_checkOperands entry.operands s
  have hlogs := logs_checkOperands entry.operands s
  rcases hverdict : operandsVerdict s entry.operands with rejection | _ <;>
    rw [hverdict] at hoperands <;> simp only [hverdict, hoperands] at hlogs
  · rw [storeEntry, outcome_bind_of_error hoperands]
    exact hlogs
  have hfound : lookFails s entry.operands = false := by rw [lookFails, hverdict]
  -- what comes of putting the entry is looked at before it is raised
  have hput := Store.logs_put entry u
  rw [storeEntry, outcome_bind_of_ok hoperands, outcome_bind, outcome_liftM]
  have hrun : (Store.put entry).run.run.run u = outcome (Store.put entry) u := rfl
  rw [hrun, hfound]
  revert hput
  rcases outcome (Store.put entry) u with ⟨_ | error | d, t⟩ <;> intro hput
  · exact hlogs.trans hput
  · exact ⟨rfl, (hlogs.trans hput).trans (.of_rejection t (.store error))⟩
  · refine ((hlogs.trans hput).trans (.of_stage t (e := .stored d) rfl)).trans ?_
    exact .of_stage _ (e := .done d entry.operands.length) rfl

/-- A program that is stored is shown to pass all six stages, in order. One that is rejected is
    shown to pass those up to the one that its rejection says it has reached, and then to be
    rejected there, with what is said of it. There is one exception: where an operand cannot be
    looked for the rejection is not shown. A request that breaks off, because its delay would end
    after the clock, is shown up to where it would have been stored. -/
theorem logs_create (registry : Registry) (source : String) (operands : List Digest) (s : Store) :
    match outcome (registry.create source operands) s with
    | (some (.ok _), t) =>
      Logs s t [.received, .lexed, .parsed, .validated, .stored, .done] []
    | (some (.error rejection), t) =>
      Logs s t (Stage.upTo rejection.reached)
        (if (registry.verdict source).isOk && lookFails s operands then []
          else [.rejected rejection.reached rejection])
    | (none, t) => Logs s t [.received, .lexed, .parsed, .validated] [] := by
  obtain ⟨log, hcheck⟩ := outcome_check registry source s
  have hchecked := logs_check registry source s
  rcases hverdict : registry.verdict source with rejection | tree <;>
    rw [hverdict] at hcheck <;> simp only [hverdict, hcheck] at hchecked
  · rw [create, outcome_bind_of_error hcheck]
    exact hchecked
  · have hstored := logs_storeEntry ⟨source, tree, operands⟩ { s with log }
    have hlook := lookFails_of_looked (.of_log s log) operands
    rw [create, outcome_bind_of_ok hcheck]
    dsimp only at hstored
    rw [hlook] at hstored
    revert hstored
    rcases outcome (storeEntry ⟨source, tree, operands⟩) { s with log } with
      ⟨_ | rejection | d, t⟩ <;> intro hstored
    · exact hchecked.trans hstored
    · obtain ⟨hreached, hstored⟩ := hstored
      have hlogs := hchecked.trans hstored
      rw [List.append_nil, ← hreached] at hlogs
      exact hlogs
    · exact hchecked.trans hstored

/-- On a disk that is full the operand is found, and it is shown that the program cannot be stored.
    -/
example :
    let x : Entry := ⟨"x", .symbol "x", []⟩
    let disk : Disk := ⟨[], [(["entries"], .folder),
      (["entries", Store.fileName x.digest], .file x.encode)],
      fun | .sync => some "No space left on device (os error 28)" | _ => none⟩
    let s : Store := ⟨.folder "/entries", none, disk, 0, []⟩
    let rejection : Rejection :=
      .store (.disk (.plain (.other "No space left on device (os error 28)")))
    (outcome (create ⟨3, ⟨0, 0⟩⟩ "(f x)" [x.digest]) s).1 = some (.error rejection) ∧
      (outcome (create ⟨3, ⟨0, 0⟩⟩ "(f x)" [x.digest]) s).2.log.getLast?.bind Event.stage? =
        some .rejected := by
  decide +kernel

/-- Where a folder has the name of the file of an operand the operand cannot be looked for, and the
    request ends without being shown as rejected. -/
theorem failed_look_not_shown :
    let d : Digest := ⟨List.replicate 32 0, rfl⟩
    let disk : Disk :=
      ⟨[], [(["entries"], .folder), (["entries", Store.fileName d], .folder)], fun _ => none⟩
    let s : Store := ⟨.folder "/entries", none, disk, 0, []⟩
    let rejection : Rejection := .store (.disk (.plain .aFolder))
    (outcome (create ⟨3, ⟨0, 0⟩⟩ "x" [d]) s).1 = some (.error rejection) ∧
      ¬Logs s (outcome (create ⟨3, ⟨0, 0⟩⟩ "x" [d]) s).2 (Stage.upTo rejection.reached)
        [.rejected rejection.reached rejection] := by
  intro d disk s rejection
  refine ⟨by decide +kernel, ?_⟩
  rintro ⟨events, passed, hlog, hfilter, hpassed⟩
  obtain rfl : _ = events := hlog
  -- four stages are shown, and that is all
  have hshown : ((outcome (create ⟨3, ⟨0, 0⟩⟩ "x" [d]) s).2.log.filter
      (·.stage?.isSome)).length = 4 := by decide +kernel
  have hlength := congrArg List.length hpassed
  rw [List.length_map] at hlength
  rw [hfilter, List.length_append, hlength] at hshown
  cases hshown

end Registry

end Formulary
