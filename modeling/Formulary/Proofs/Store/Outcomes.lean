import Formulary.Proofs.Store.Forgetting

/-!
# What becomes of actions

An action on a store ends with a result or an error, or breaks off, and leaves the store in some
state (`outcome`). Of actions in a row the outcome is found one by one (`outcome_bind`).

Most actions write nothing, so that all they leave behind is events, time that has passed, and a
store that remembers less (`Observes`); that is so for actions in a row if it is so for each of them
(`Observes.bind`).
-/

namespace Formulary.Store

variable {ε δ α β : Type}

/-- The result of an action, if it does not break off, and the store that it leaves. -/
def outcome (x : ExceptT ε Run α) (s : Store) : Option (Except ε α) × Store :=
  x.run.run.run s

@[simp] theorem outcome_pure (a : α) (s : Store) :
    outcome (pure a : ExceptT ε Run α) s = (some (.ok a), s) := rfl

@[simp] theorem outcome_get (s : Store) :
    outcome (get : ExceptT ε Run Store) s = (some (.ok s), s) := rfl

/-- An event is logged behind the others. -/
@[simp] theorem outcome_emit (e : Event) (s : Store) :
    outcome (liftM (emit e) : ExceptT ε Run Unit) s =
      (some (.ok ()), { s with log := s.log ++ [e] }) := rfl

/-- Of two actions in a row the second one is done with the result of the first, in the store that
    the first one leaves. -/
theorem outcome_bind (x : ExceptT ε Run α) (f : α → ExceptT ε Run β) (s : Store) :
    outcome (x >>= f) s =
      match outcome x s with
      | (some (.ok a), t) => outcome (f a) t
      | (some (.error e), t) => (some (.error e), t)
      | (none, t) => (none, t) := by
  unfold outcome
  simp only [ExceptT.run_bind, OptionT.run_bind, Option.elimM, StateT.run_bind]
  rcases x.run.run.run s with ⟨_ | _ | a, t⟩ <;> simp <;> rfl

/-- An action that succeeds is followed by the next. -/
theorem outcome_bind_of_ok {x : ExceptT ε Run α} {s t : Store} {a : α}
    (h : outcome x s = (some (.ok a), t)) (f : α → ExceptT ε Run β) :
    outcome (x >>= f) s = outcome (f a) t := by
  rw [outcome_bind, h]

/-- An action that fails ends all. -/
theorem outcome_bind_of_error {x : ExceptT ε Run α} {s t : Store} {e : ε}
    (h : outcome x s = (some (.error e), t)) (f : α → ExceptT ε Run β) :
    outcome (x >>= f) s = (some (.error e), t) := by
  rw [outcome_bind, h]

/-- Nothing comes after an action that breaks off. -/
theorem outcome_bind_of_none {x : ExceptT ε Run α} {s t : Store} (h : outcome x s = (none, t))
    (f : α → ExceptT ε Run β) : outcome (x >>= f) s = (none, t) := by
  rw [outcome_bind, h]

/-- What two actions in a row do to a store is what the first one does, and then the second one,
    unless the first one has ended both. -/
theorem rel_outcome_bind {R : Store → Store → Prop} (htrans : ∀ s t u, R s t → R t u → R s u)
    {x : ExceptT ε Run α} {f : α → ExceptT ε Run β} (hx : ∀ s, R s (outcome x s).2)
    (hf : ∀ a s, R s (outcome (f a) s).2) (s : Store) : R s (outcome (x >>= f) s).2 := by
  have h := hx s
  rw [outcome_bind]
  revert h
  rcases outcome x s with ⟨_ | _ | a, t⟩ <;> intro h
  · exact h
  · exact h
  · exact htrans s t _ h (hf a t)

/-- Errors are told in other words. -/
theorem outcome_adapt (f : ε → δ) (x : ExceptT ε Run α) (s : Store) :
    outcome (ExceptT.adapt f x) s = ((outcome x s).1.map (Except.mapError f), (outcome x s).2) := by
  have hrun : (ExceptT.adapt f x).run = Except.mapError f <$> x.run := rfl
  rw [outcome, hrun, OptionT.run_map, StateT.run_map]
  rfl

/-- What cannot fail can only break off. -/
theorem outcome_liftM (x : Run α) (s : Store) :
    outcome (liftM x : ExceptT ε Run α) s =
      ((x.run.run s).1.map .ok, (x.run.run s).2) := by
  have hlift : (liftM x : ExceptT ε Run α).run = Except.ok <$> x := rfl
  rw [outcome, hlift, OptionT.run_map, StateT.run_map]
  rfl

/-- A moment beyond the end of the clock cannot be told. -/
theorem outcome_later (d : Duration) (s : Store) :
    outcome (liftM (later d) : ExceptT ε Run Instant) s =
      if s.now + d < clockEnd then (some (.ok (s.now + d)), s) else (none, s) := by
  have hlater : (later d).run.run s =
      (if s.now + d < clockEnd then pure (s.now + d) else failure : Run Instant).run.run s := rfl
  rw [outcome_liftM, hlater]
  split_ifs <;> rfl

/-- Whether something may be seen is told by a look. -/
theorem outcome_isSettled (d : Digest) (s : Store) :
    outcome (liftM (isSettled d) : ExceptT ε Run Bool) s =
      (some (.ok (s.isVisible d)), s.lookedAt d) := rfl

/-- Reading gives what is visible, and is a look. -/
theorem outcome_read (d : Digest) (s : Store) :
    outcome (read d) s = (some (s.fetch? d), s.lookedAt d) := by
  rw [read, outcome_bind_of_ok (outcome_isSettled d s), fetch?]
  rcases hvisible : s.isVisible d with _ | _
  · rfl
  · rw [if_pos rfl, outcome_bind_of_ok (outcome_get _), (Looked.lookedAt s d).bytes?_eq]
    rfl

/-- Of some digests those are given under which something may be seen, and there is a look under
    each of them. -/
theorem run_settledAmong (ds : List Digest) (s : Store) :
    (settledAmong ds).run.run s = (some (ds.filter s.isVisible), s.lookedAtAll ds) := by
  induction ds generalizing s with
  | nil => rfl
  | cons d ds ih =>
    have hcons : (settledAmong (d :: ds)).run.run s =
        (do
          let rest ← settledAmong ds
          return if s.isVisible d then d :: rest else rest : Run _).run.run (s.lookedAt d) := rfl
    have hrest := ih (s.lookedAt d)
    rw [isVisible_lookedAt] at hrest
    rw [hcons, OptionT.run_bind, Option.elimM, StateT.run_bind, hrest, lookedAtAll_cons,
      List.filter_cons]
    rfl

/-- Of the digests on the shelf those are listed under which something may be seen. -/
theorem outcome_digests {s t : Store} {ds : List Digest}
    (h : outcome shelfDigests s = (some (.ok ds), t)) :
    outcome digests s = (some (.ok (ds.filter t.isVisible)), t.lookedAtAll ds) := by
  rw [digests, outcome_bind_of_ok h, outcome_liftM, run_settledAmong]
  rfl

/-- In memory what is written comes behind the other entries, unless there is one in its place. -/
theorem outcome_writeToShelf_of_memory {s : Store} {entries : List (Digest × Bytes)}
    (h : s.shelf = .memory entries) (d : Digest) (b : Bytes) :
    outcome (writeToShelf d b) s =
      if (entries.lookup d).isSome then (some (.ok false), s)
      else (some (.ok true), { s with shelf := .memory (entries ++ [(d, b)]) }) := by
  rw [writeToShelf, outcome_bind_of_ok (outcome_get s), h]
  dsimp only
  split_ifs <;> rfl

/-- In a folder what is written is a file, and the shelf stays what it is. -/
theorem outcome_writeToShelf_of_folder {s : Store} {path : String} (h : s.shelf = .folder path)
    (d : Digest) (b : Bytes) :
    outcome (writeToShelf d b) s =
      match writeFile s.disk path d b with
      | .error error => (some (.error error), s)
      | .ok (written, disk) => (some (.ok written), { s with disk }) := by
  rw [writeToShelf, outcome_bind_of_ok (outcome_get s), h]
  dsimp only
  rcases writeFile s.disk path d b with error | ⟨written, disk⟩ <;> rfl

/-! ## Looking at a store -/

/-- The action writes nothing. -/
def Observes (x : ExceptT ε Run α) : Prop :=
  ∀ s, Passes s (outcome x s).2

namespace Observes

/-- Two actions in a row write nothing if neither of them does. -/
theorem bind {x : ExceptT ε Run α} {f : α → ExceptT ε Run β} (hx : Observes x)
    (hf : ∀ a, Observes (f a)) : Observes (x >>= f) :=
  rel_outcome_bind (R := Passes) (fun _ _ _ => Passes.trans) hx hf

theorem pure (a : α) : Observes (Pure.pure a : ExceptT ε Run α) := fun s => Passes.refl s

/-- Nothing is written by failing. -/
theorem throw (e : ε) : Observes (MonadExcept.throw e : ExceptT ε Run α) :=
  fun s => Passes.refl s

/-- To log is not to write. -/
theorem emit (e : Event) : Observes (liftM (Store.emit e) : ExceptT ε Run Unit) :=
  fun s => Passes.of_log s _

/-- It does not matter in which words errors are told. -/
theorem adapt {f : ε → δ} {x : ExceptT ε Run α} (hx : Observes x) :
    Observes (ExceptT.adapt f x) := by
  intro s
  rw [outcome_adapt]
  exact hx s

theorem get : Observes (MonadState.get : ExceptT ε Run Store) := fun s => Passes.refl s

theorem mk (r : Except ε α) : Observes (ExceptT.mk (Pure.pure r) : ExceptT ε Run α) :=
  fun s => Passes.refl s

/-- Nothing is written by telling a moment, be it that it cannot be told. -/
theorem later (d : Duration) : Observes (liftM (Store.later d) : ExceptT ε Run Instant) := by
  intro s
  rw [outcome_later]
  split_ifs
  · exact Passes.refl s
  · exact Passes.refl s

end Observes

/-- Reading is a look. -/
theorem observes_read (d : Digest) : Observes (read d) := by
  intro s
  rw [outcome_read]
  exact .lookedAt s d

theorem observes_holds (d : Digest) : Observes (holds d) :=
  (observes_read d).bind fun _ => .pure _

/-- What bytes decode to is a matter of the bytes alone. -/
theorem observes_decoded (b : Bytes) :
    Observes (match Entry.decode b with
      | .ok entry => (pure entry : Action Entry)
      | .error e => throw (.undecodable e)) := by
  cases Entry.decode b with
  | ok entry => exact .pure entry
  | error e => exact .throw _

/-- Fetching an entry writes nothing, whatever is found. -/
theorem observes_fetch (d : Digest) : Observes (fetch d) := by
  refine (observes_read d).bind fun found => ?_
  cases found with
  | none => exact .throw _
  | some b =>
    dsimp only
    -- bytes of another digest are told of and end it, so what would come after does not matter
    split_ifs
    · exact (Observes.emit _).bind fun _ => (Observes.throw _).bind fun _ => observes_decoded b
    · exact observes_decoded b

/-- Files that are skipped are told of in the log. -/
theorem observes_shelfDigests : Observes shelfDigests := by
  refine Observes.get.bind fun s => ?_
  cases s.shelf with
  | memory entries => exact .pure _
  | folder path =>
    refine (Observes.mk _).bind fun found => ?_
    exact Observes.bind (fun t => Passes.of_log t _) fun _ => .pure _

/-- There are only looks under the digests. -/
theorem observes_settledAmong (ds : List Digest) :
    Observes (liftM (settledAmong ds) : ExceptT ε Run (List Digest)) := by
  intro s
  rw [outcome_liftM, run_settledAmong]
  exact (Looked.lookedAtAll s ds).toPasses

theorem observes_digests : Observes digests :=
  observes_shelfDigests.bind fun ds => observes_settledAmong ds

end Formulary.Store
