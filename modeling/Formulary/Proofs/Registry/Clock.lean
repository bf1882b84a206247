import Formulary.Proofs.Registry.Retrieval
import Formulary.Proofs.Store.Attempts

/-!
# Calls that do not break off

A call breaks off where a moment cannot be told, and there are two of these: the one when something
that is written becomes visible (`outcome_write_eq_none_iff`), and the one when somebody gives up
waiting. Whoever waits is cut short as well if the looks cannot be counted. As long as both moments
lie before the end of the clock, and the looks can be counted, every call comes to an end, be it
that it is rejected.
-/

namespace Formulary

open Store (outcome outcome_bind_of_error outcome_bind_of_ok outcome_adapt outcome_liftM clockEnd
  WaitsInTime)

/-! ## Writing -/

namespace Store

variable {s : Store}

/-- Only what is on the shelf or the disk is changed, whether it can be written or not. -/
theorem exists_outcome_writeToShelf (d : Digest) (b : Bytes) (s : Store) :
    ∃ r shelf disk, outcome (writeToShelf d b) s = (some r, { s with shelf, disk }) := by
  rcases hshelf : s.shelf with entries | path
  · rw [outcome_writeToShelf_of_memory hshelf]
    split_ifs
    · exact ⟨_, s.shelf, s.disk, rfl⟩
    · exact ⟨_, _, s.disk, rfl⟩
  · rw [outcome_writeToShelf_of_folder hshelf]
    rcases writeFile s.disk path d b with error | ⟨written, disk⟩
    · exact ⟨_, s.shelf, s.disk, rfl⟩
    · exact ⟨_, s.shelf, disk, rfl⟩

/-- Marking breaks off exactly if the end of the delay cannot be told. -/
theorem outcome_settle_eq_none_iff (d : Digest) (s : Store) :
    (outcome (liftM (settle d) : Action Unit) s).1 = none ↔ ¬s.SettlesInTime := by
  rw [outcome_liftM, SettlesInTime]
  rcases hsettling : s.settling with _ | settling
  · simp [run_settle_of_none d hsettling]
  · rw [run_settle_of_some d hsettling]
    split_ifs with hclock <;> simp [hclock]

/-- Writing breaks off exactly if something new is written, and by then it cannot be told when that
    becomes visible. -/
theorem outcome_write_eq_none_iff (d : Digest) (b : Bytes) (s : Store) :
    (outcome (write d b) s).1 = none ↔
      (outcome (writeToShelf d b) s).1 = some (.ok true) ∧ ¬s.SettlesInTime := by
  obtain ⟨error | written, shelf, disk, h⟩ := exists_outcome_writeToShelf d b s
  · rw [write, outcome_bind_of_error h, h]
    simp
  rw [write, outcome_bind_of_ok h, h]
  cases written with
  | false => simp
  | true =>
    -- the shelf has no part in it
    have hsettle : _ ↔ ¬s.SettlesInTime :=
      outcome_settle_eq_none_iff d { s with shelf, disk }
    rw [← hsettle]
    simp only [if_true, true_and]
    rw [outcome_bind]
    rcases outcome (liftM (settle d) : Action Unit) { s with shelf, disk } with ⟨_ | _ | _, t⟩ <;>
      simp

theorem exists_outcome_write (hs : s.SettlesInTime) (d : Digest) (b : Bytes) :
    ∃ r t, outcome (write d b) s = (some r, t) := by
  have hne : (outcome (write d b) s).1 ≠ none :=
    fun h => ((outcome_write_eq_none_iff d b s).1 h).2 hs
  obtain ⟨r, hr⟩ := Option.ne_none_iff_exists'.1 hne
  exact ⟨r, _, Prod.ext hr rfl⟩

theorem exists_outcome_put (hs : s.SettlesInTime) (entry : Entry) :
    ∃ r t, outcome (put entry) s = (some r, t) := by
  obtain ⟨error | written, t, h⟩ := exists_outcome_write hs entry.digest entry.encode
  · exact ⟨_, _, outcome_bind_of_error h _⟩
  · rw [put, outcome_bind_of_ok h]
    cases written <;> exact ⟨_, _, rfl⟩

/-- The shelf is always listed, be it that the disk fails. -/
theorem exists_outcome_shelfDigests (s : Store) :
    ∃ r t, outcome shelfDigests s = (some r, t) := by
  rcases s with ⟨entries | path, settling, disk, now, log⟩
  · exact ⟨_, _, rfl⟩
  · rw [shelfDigests, outcome_bind_of_ok (outcome_get _)]
    dsimp only
    rcases fileNames disk path with error | names
    · exact ⟨_, _, rfl⟩
    · exact ⟨_, _, rfl⟩

theorem exists_outcome_digests (s : Store) : ∃ r t, outcome digests s = (some r, t) := by
  obtain ⟨error | ds, t, h⟩ := exists_outcome_shelfDigests s
  · exact ⟨_, _, outcome_bind_of_error h _⟩
  · exact ⟨_, _, outcome_digests h⟩

end Store

/-! ## Calls -/

namespace Registry

variable {registry : Registry} {s : Store}

/-- An entry is stored or rejected if the end of the delay can be told. -/
theorem exists_outcome_storeEntry (hs : s.SettlesInTime) (entry : Entry) :
    ∃ r t, outcome (storeEntry entry) s = (some r, t) := by
  obtain ⟨u, hu, hoperands⟩ := outcome_checkOperands entry.operands s
  rcases hverdict : operandsVerdict s entry.operands with rejection | _ <;>
    rw [hverdict] at hoperands
  · exact ⟨_, _, outcome_bind_of_error hoperands _⟩
  -- the looks at the operands do not matter to the clock
  · obtain ⟨r, t, hput⟩ := Store.exists_outcome_put (hu.settlesInTime_iff.2 hs) entry
    have hlift : outcome (liftM (Store.put entry).run : Request _) u = (some (.ok r), t) := by
      rw [outcome_liftM]
      have hrun : (Store.put entry).run.run.run u = (some r, t) := hput
      rw [hrun]
      rfl
    rw [storeEntry, outcome_bind_of_ok hoperands, outcome_bind_of_ok hlift]
    cases r with
    | error error =>
      obtain ⟨log', hreject⟩ := outcome_orReject
        (Except.mapError Rejection.store (.error error : Except Store.Error Digest)) t
      exact ⟨_, _, outcome_bind_of_error hreject _⟩
    | ok d => exact ⟨_, _, rfl⟩

/-- So is a program, whatever it is. -/
theorem exists_outcome_create (hs : s.SettlesInTime) (source : String) (operands : List Digest) :
    ∃ r t, outcome (registry.create source operands) s = (some r, t) := by
  rcases hverdict : registry.verdict source with rejection | tree
  · obtain ⟨log, h⟩ := outcome_create_of_error hverdict operands s
    exact ⟨_, _, h⟩
  · obtain ⟨log, hcheck⟩ := outcome_check registry source s
    rw [hverdict] at hcheck
    have hlog : Store.SettlesInTime { s with log } := hs
    rw [create, outcome_bind_of_ok hcheck]
    exact exists_outcome_storeEntry hlog _

/-- Waiting comes to an end if it is known when to give up, and the looks can be counted. -/
theorem exists_outcome_await (h : WaitsInTime registry.patience s.now) (d : Digest) :
    ∃ r t, outcome (registry.await d) s = (some r, t) := by
  obtain ⟨r, hr⟩ := Option.ne_none_iff_exists'.1
    (mt outcome_await_eq_none_iff.1 (h.outcome_await_ne_none d))
  exact ⟨r, _, Prod.ext hr rfl⟩

theorem exists_outcome_digests (s : Store) : ∃ r t, outcome digests s = (some r, t) := by
  obtain ⟨r, t, h⟩ := Store.exists_outcome_digests s
  exact ⟨_, _, by rw [digests, onStore, outcome_adapt, h]; rfl⟩

end Registry

end Formulary
