import Formulary.Proofs.Store.Listing
import Formulary.Proofs.Store.Looking

/-!
# Operations on a store that settles

What can be asked of a store is an `Operation`. On a store that nobody disturbs it only looks, or it
writes bytes under a digest that has none; these are visible from the end of the delay on. When the
store has forgotten since when something is visible, that is a moment that has come (`Step`). Only a
write can break off, when the end of the delay cannot be told (`Undisturbed.happens`).

* `Operation.mirrors`: where everything is visible an operation does what it does without settling.
-/

namespace Formulary.Store

/-- What can be asked of a store. -/
inductive Operation
  | write (d : Digest) (b : Bytes)
  | put (entry : Entry)
  | read (d : Digest)
  | fetch (d : Digest)
  | holds (d : Digest)
  | digests

namespace Operation

/-- What an operation answers with. -/
abbrev Answer : Operation → Type
  | write _ _ => Bool
  | put _ => Digest
  | read _ => Option Bytes
  | fetch _ => Entry
  | holds _ => Bool
  | digests => List Digest

/-- What a store does that is asked for an operation. -/
def run : (operation : Operation) → Action operation.Answer
  | write d b => Store.write d b
  | put entry => Store.put entry
  | read d => Store.read d
  | fetch d => Store.fetch d
  | holds d => Store.holds d
  | digests => Store.digests

/-- The answer of an operation, or its error, unless it breaks off. -/
def answer? (s : Store) (operation : Operation) : Option (Except Error operation.Answer) :=
  (outcome operation.run s).1

/-- The store that an operation leaves. -/
def after (s : Store) (operation : Operation) : Store :=
  (outcome operation.run s).2

/-- The bytes that an operation puts under a digest unless there are some. -/
def bytesFor? (d : Digest) : Operation → Option Bytes
  | write e b => if d = e then some b else none
  | put entry => if d = entry.digest then some entry.encode else none
  | _ => none

end Operation

/-! ## Steps -/

/-- The operation writes under the digest, where there is nothing. -/
structure IsFresh (s : Store) (operation : Operation) (d : Digest) : Prop where
  bytes?_eq : s.bytes? d = .ok none
  isSome : (operation.bytesFor? d).isSome

/-- What the operation writes is put where there is nothing, and is visible from the end of the
    delay on. Of anything else that is visible it may be forgotten since when, and events were
    logged. -/
structure Step (delay : Duration) (s : Store) (operation : Operation) (t : Store) : Prop where
  undisturbed : t.Undisturbed
  delay?_eq : t.delay? = some delay
  now_eq : t.now = s.now
  bytes?_eq : ∀ d, t.bytes? d =
    if s.bytes? d = .ok none then .ok (operation.bytesFor? d) else s.bytes? d
  visibleFrom?_of_isFresh : ∀ d, IsFresh s operation d → t.visibleFrom? d = some (s.now + delay)
  visibleFrom?_of_not_isFresh : ∀ d, ¬IsFresh s operation d → t.visibleFrom? d = s.visibleFrom? d ∨
    t.visibleFrom? d = none ∧ ∃ start ∈ s.visibleFrom? d, start ≤ s.now

/-- The operation is answered and takes a step; or it breaks off, for it would have written
    something of which it cannot be told when it becomes visible. -/
inductive Happens (delay : Duration) (s : Store) (operation : Operation) : Prop
  | answers {answer : Except Error operation.Answer} {t : Store}
      (h : outcome operation.run s = (some answer, t)) (hstep : Step delay s operation t)
      (hclock : ∀ d, IsFresh s operation d → s.now + delay < clockEnd)
  | breaksOff {d : Digest} (h : operation.answer? s = none) (hfresh : IsFresh s operation d)
      (hclock : clockEnd ≤ s.now + delay)

variable {s t : Store} {delay : Duration} {operation : Operation}

/-- Putting an entry writes what it is encoded as. -/
theorem isFresh_put_iff {entry : Entry} {d : Digest} :
    IsFresh s (.put entry) d ↔ IsFresh s (.write entry.digest entry.encode) d :=
  ⟨fun ⟨hd, hsome⟩ => ⟨hd, hsome⟩, fun ⟨hd, hsome⟩ => ⟨hd, hsome⟩⟩

/-- So it takes a step of writing that, and what it logs does not matter. -/
theorem Step.put {entry : Entry} (h : Step delay s (.write entry.digest entry.encode) t)
    (log : List Event) : Step delay s (.put entry) { t with log } :=
  ⟨h.undisturbed.of_passes (.of_log t log), h.delay?_eq, h.now_eq, h.bytes?_eq,
    fun d hd => h.visibleFrom?_of_isFresh d (isFresh_put_iff.1 hd),
    fun d hd => h.visibleFrom?_of_not_isFresh d (mt isFresh_put_iff.2 hd)⟩

/-- Whether there is something is told by a look. -/
theorem outcome_holds (d : Digest) (s : Store) :
    outcome (holds d) s = (some ((s.fetch? d).map Option.isSome), s.lookedAt d) := by
  have hread := outcome_read d s
  rw [holds]
  rcases hfound : s.fetch? d with error | found <;> rw [hfound] at hread
  · exact outcome_bind_of_error hread _
  · exact outcome_bind_of_ok hread _

namespace Undisturbed

/-- What writes nothing new is no more than a look. -/
theorem step_of_looked (hs : s.Undisturbed) (hdelay : s.delay? = some delay)
    (hnone : ∀ d, ¬IsFresh s operation d) (h : Looked s t) : Step delay s operation t := by
  refine ⟨hs.of_passes h.toPasses, h.delay?_eq.trans hdelay, h.now_eq, fun d => ?_,
    fun d hd => absurd hd (hnone d), fun d _ => h.now_eq ▸ h.visibleFrom? d⟩
  rw [h.bytes?_eq]
  split_ifs with hd
  · have hfree : operation.bytesFor? d = none :=
      Option.not_isSome_iff_eq_none.1 fun hsome => hnone d ⟨hd, hsome⟩
    rw [hd, hfree]
  · rfl

/-- A write is fresh under its own digest, if there is nothing yet. -/
theorem isFresh_write_iff {d e : Digest} {b : Bytes} :
    IsFresh s (.write d b) e ↔ s.bytes? d = .ok none ∧ e = d := by
  constructor
  · rintro ⟨he, hsome⟩
    obtain rfl : e = d := by
      by_contra hne
      simp [Operation.bytesFor?, hne] at hsome
    exact ⟨he, rfl⟩
  · rintro ⟨hd, rfl⟩
    exact ⟨hd, by simp [Operation.bytesFor?]⟩

theorem not_isFresh_write {d : Digest} {b : Bytes} (hd : s.bytes? d ≠ .ok none) (e : Digest) :
    ¬IsFresh s (.write d b) e := fun h => hd (isFresh_write_iff.1 h).1

/-- What is put on the shelf where there was nothing, and marked with the end of the delay, is a
    step. -/
theorem step_of_fresh {settling : Settling} (hsettling : s.settling = some settling)
    {d : Digest} {b : Bytes} (hd : s.bytes? d = .ok none) {shelf : Shelf} {disk : Disk}
    (ht : Undisturbed { s with shelf, disk })
    (hbytes : ∀ e, bytes? { s with shelf, disk } e = if e = d then .ok (some b) else s.bytes? e) :
    Step settling.delay s (.write d b)
      (withStart { s with shelf, disk } settling d (s.now + settling.delay)) := by
  refine ⟨ht.of_eq rfl rfl, rfl, rfl, fun e => ?_, fun e he => ?_, fun e he => ?_⟩
  · refine (hbytes e).trans ?_
    rw [Operation.bytesFor?]
    split_ifs with he hnone hnone
    · rfl
    · exact absurd (he ▸ hd) hnone
    · exact hnone
    · rfl
  · obtain ⟨-, rfl⟩ := isFresh_write_iff.1 he
    simp [visibleFrom?, withStart]
  · have hne : (e == d) = false := by simpa [isFresh_write_iff, hd] using he
    exact .inl (by simp [visibleFrom?, withStart, hsettling, List.lookup_cons, hne])

/-- Bytes are written where there is nothing, if the end of the delay can be told. -/
theorem outcome_write (hs : s.Undisturbed) (hdelay : s.delay? = some delay) (d : Digest)
    (b : Bytes) :
    (s.bytes? d ≠ .ok none ∧ outcome (write d b) s = (some (.ok false), s)) ∨
    s.bytes? d = .ok none ∧
      ((clockEnd ≤ s.now + delay ∧ (outcome (write d b) s).1 = none) ∨
      (s.now + delay < clockEnd ∧ ∃ t, outcome (write d b) s = (some (.ok true), t) ∧
        Step delay s (.write d b) t)) := by
  obtain ⟨settling, hsettling, rfl⟩ := delay?_eq_some_iff.1 hdelay
  rcases hs.outcome_writeToShelf d b with ⟨hd, h⟩ | ⟨hd, shelf, disk, h, ht, hbytes⟩
  · refine .inl ⟨hd, ?_⟩
    rw [write, outcome_bind_of_ok h]
    rfl
  · refine .inr ⟨hd, ?_⟩
    let u : Store := { s with shelf, disk }
    have hsettle : (settle d).run.run u = _ := run_settle_of_some d hsettling
    rw [write, outcome_bind_of_ok h]
    simp only [if_true]
    -- the bytes are there by now, whether the end of the delay can be told or not
    by_cases hclock : s.now + settling.delay < clockEnd
    · rw [if_pos hclock] at hsettle
      refine .inr ⟨hclock, u.withStart settling d (s.now + settling.delay), ?_,
        step_of_fresh hsettling hd ht hbytes⟩
      rw [outcome_bind_of_ok (by rw [outcome_liftM, hsettle]; rfl)]
      rfl
    · rw [if_neg hclock] at hsettle
      refine .inl ⟨Nat.le_of_not_lt hclock, ?_⟩
      rw [outcome_bind_of_none (by rw [outcome_liftM, hsettle]; rfl)]

/-- Whatever only looks is answered. -/
theorem happens_of_looked (hs : s.Undisturbed) (hdelay : s.delay? = some delay)
    (hnone : ∀ d, ¬IsFresh s operation d) {answer : Except Error operation.Answer}
    (h : outcome operation.run s = (some answer, t)) (ht : Looked s t) :
    Happens delay s operation :=
  .answers h (hs.step_of_looked hdelay hnone ht) fun d hd => absurd hd (hnone d)

/-- Bytes are written in a step, unless the clock runs out. -/
theorem happens_write (hs : s.Undisturbed) (hdelay : s.delay? = some delay) (d : Digest)
    (b : Bytes) : Happens delay s (.write d b) := by
  rcases hs.outcome_write hdelay d b with ⟨hd, h⟩ | ⟨hd, ⟨hclock, h⟩ | ⟨hclock, t, h, hstep⟩⟩
  · exact hs.happens_of_looked hdelay (not_isFresh_write hd) h (.refl s)
  · exact .breaksOff h (isFresh_write_iff.2 ⟨hd, rfl⟩) hclock
  · exact .answers h hstep fun _ _ => hclock

/-- An entry is put as its encoding is written. -/
theorem happens_put (hs : s.Undisturbed) (hdelay : s.delay? = some delay) (entry : Entry) :
    Happens delay s (.put entry) := by
  rcases hs.outcome_write hdelay entry.digest entry.encode with
    ⟨hd, h⟩ | ⟨hd, ⟨hclock, h⟩ | ⟨hclock, t, h, hstep⟩⟩
  · exact hs.happens_of_looked hdelay (fun d => mt isFresh_put_iff.1 (not_isFresh_write hd d))
      ((outcome_bind_of_ok h _).trans rfl) (.of_log s (s.log ++ [.alreadyWritten entry.digest]))
  · refine .breaksOff ?_ (isFresh_put_iff.2 (isFresh_write_iff.2 ⟨hd, rfl⟩)) hclock
    exact congrArg Prod.fst (outcome_bind_of_none (Prod.ext h rfl) _)
  · exact .answers ((outcome_bind_of_ok h _).trans rfl)
      (hstep.put (t.log ++ [.written entry.digest])) fun _ _ => hclock

/-- An operation takes a step, or it would have to tell a moment that cannot be told. -/
theorem happens (hs : s.Undisturbed) (hdelay : s.delay? = some delay) (operation : Operation) :
    Happens delay s operation := by
  cases operation with
  | write d b => exact hs.happens_write hdelay d b
  | put entry => exact hs.happens_put hdelay entry
  | read d => exact hs.happens_of_looked hdelay (fun _ => nofun) (outcome_read d s) (.lookedAt s d)
  | fetch d =>
    obtain ⟨log, h⟩ := outcome_fetch d s
    exact hs.happens_of_looked hdelay (fun _ => nofun) h
      ((Looked.lookedAt s d).trans (.of_log _ log))
  | holds d =>
    exact hs.happens_of_looked hdelay (fun _ => nofun) (outcome_holds d s) (.lookedAt s d)
  | digests =>
    obtain ⟨ds, log, h, -⟩ := hs.outcome_shelfDigests
    exact hs.happens_of_looked hdelay (fun _ => nofun) (outcome_digests h)
      ((Looked.of_log s log).trans (.lookedAtAll _ ds))

/-- Every operation that is answered takes a step. -/
theorem step_after (hs : s.Undisturbed) (hdelay : s.delay? = some delay)
    (hanswers : operation.answer? s ≠ none) : Step delay s operation (operation.after s) := by
  cases hs.happens hdelay operation with
  | answers h hstep => rwa [Operation.after, h]
  | breaksOff hnone => exact absurd hnone hanswers

end Undisturbed

/-! ## Without settling -/

/-- The store without settling: all that is in it is visible. -/
def inner (s : Store) : Store :=
  { s with settling := none }

@[simp] theorem isVisible_inner (s : Store) (d : Digest) : s.inner.isVisible d = true := rfl

/-- The store without settling has nothing to forget. -/
@[simp] theorem inner_lookedAt (s : Store) (d : Digest) : (s.lookedAt d).inner = s.inner := by
  obtain ⟨settling, -, h⟩ := s.exists_lookedAt_eq d
  rw [h]
  rfl

/-- What keeps no marks has none to forget. -/
@[simp] theorem lookedAt_inner (s : Store) (d : Digest) : s.inner.lookedAt d = s.inner :=
  lookedAt_of_none rfl d

theorem inner_lookedAtAll (s : Store) (ds : List Digest) :
    (s.lookedAtAll ds).inner = s.inner.lookedAtAll ds := by
  induction ds generalizing s with
  | nil => rfl
  | cons d ds ih => rw [lookedAtAll_cons, lookedAtAll_cons, ih, inner_lookedAt, lookedAt_inner]

/-- Unless it breaks off, the action does the same to the store without settling. -/
def Mirrors {α : Type} (x : Action α) (s : Store) : Prop :=
  (outcome x s).1 ≠ none → outcome x s.inner = ((outcome x s).1, (outcome x s).2.inner)

namespace Mirrors

variable {α β : Type} {x : Action α} {f : α → Action β}

/-- Actions in a row do the same if each of them does, in the store that the one before leaves. -/
theorem bind (hx : Mirrors x s)
    (hf : ∀ a t, outcome x s = (some (.ok a), t) → Mirrors (f a) t) : Mirrors (x >>= f) s := by
  intro h
  -- if the first action breaks off so do both, which is excluded
  rcases hfirst : outcome x s with ⟨_ | error | a, t⟩
  · exact absurd (congrArg Prod.fst (outcome_bind_of_none hfirst f)) h
  · have hinner : outcome x s.inner = (some (.error error), t.inner) := by
      rw [hx (by simp [hfirst]), hfirst]
    rw [outcome_bind_of_error hfirst, outcome_bind_of_error hinner]
  · have hinner : outcome x s.inner = (some (.ok a), t.inner) := by
      rw [hx (by simp [hfirst]), hfirst]
    rw [outcome_bind_of_ok hfirst] at h ⊢
    rw [outcome_bind_of_ok hinner, hf a t hfirst h]

theorem pure (a : α) : Mirrors (Pure.pure a) s := fun _ => rfl

theorem throw (error : Error) : Mirrors (MonadExcept.throw error : Action α) s := fun _ => rfl

theorem emit (event : Event) : Mirrors (liftM (Store.emit event) : Action Unit) s := fun _ => rfl

/-- Without settling there is nothing to be marked. -/
theorem settle (d : Digest) : Mirrors (liftM (Store.settle d) : Action Unit) s := by
  intro h
  have hinner : (Store.settle d).run.run s.inner = (some (), s.inner) := run_settle_of_none d rfl
  rw [outcome_liftM, outcome_liftM, hinner] at *
  rcases hsettling : s.settling with _ | settling
  · rw [run_settle_of_none d hsettling]
  · rw [run_settle_of_some d hsettling] at h ⊢
    split_ifs at h ⊢
    · rfl
    · exact absurd rfl h

/-- The shelf has nothing to do with settling. -/
theorem writeToShelf (d : Digest) (b : Bytes) : Mirrors (Store.writeToShelf d b) s := by
  intro _
  rcases hshelf : s.shelf with entries | path
  · have hinner : s.inner.shelf = .memory entries := hshelf
    rw [outcome_writeToShelf_of_memory hshelf, outcome_writeToShelf_of_memory hinner]
    split_ifs <;> rfl
  · have hinner : s.inner.shelf = .folder path := hshelf
    have hdisk : s.inner.disk = s.disk := rfl
    rw [outcome_writeToShelf_of_folder hshelf, outcome_writeToShelf_of_folder hinner, hdisk]
    rcases writeFile s.disk path d b with error | ⟨written, disk⟩ <;> rfl

/-- Bytes get onto the shelf as they do without a delay, and are marked besides. -/
theorem write (d : Digest) (b : Bytes) : Mirrors (Store.write d b) s := by
  refine (writeToShelf d b).bind fun written t _ => ?_
  cases written with
  | false => exact pure false
  | true => exact (settle d).bind fun _ _ _ => pure true

theorem put (entry : Entry) : Mirrors (Store.put entry) s := by
  refine (write _ _).bind fun written t _ => ?_
  cases written with
  | false => exact (emit _).bind fun _ _ _ => pure _
  | true => exact (emit _).bind fun _ _ _ => pure _

/-- What may be seen is read as it is without a delay. -/
theorem read {d : Digest} (hd : s.isVisible d) : Mirrors (Store.read d) s := by
  intro _
  rw [outcome_read, outcome_read, fetch?, fetch?, if_pos hd, if_pos (isVisible_inner s d),
    inner_lookedAt, lookedAt_inner]
  rfl

theorem holds {d : Digest} (hd : s.isVisible d) : Mirrors (Store.holds d) s :=
  (read hd).bind fun _ _ _ => pure _

theorem fetch {d : Digest} (hd : s.isVisible d) : Mirrors (Store.fetch d) s := by
  refine (read hd).bind fun found t _ => ?_
  cases found with
  | none => exact throw _
  | some b =>
    dsimp only
    -- bytes of another digest end it, so what they decode to does not matter
    rcases Entry.decode b with error | entry
    · split_ifs
      · exact (emit _).bind fun _ _ _ => (throw _).bind fun _ _ _ => throw _
      · exact throw _
    · split_ifs
      · exact (emit _).bind fun _ _ _ => (throw _).bind fun _ _ _ => pure _
      · exact pure _

/-- What is on the shelf does not depend on marks. -/
theorem shelfDigests : Mirrors Store.shelfDigests s := by
  intro _
  rcases s with ⟨entries | path, settling, disk, now, log⟩
  · rfl
  · rw [Store.shelfDigests, outcome_bind_of_ok (outcome_get _),
      outcome_bind_of_ok (outcome_get _)]
    dsimp only [inner]
    rcases fileNames disk path with error | names <;> rfl

/-- Where everything is visible all that is on the shelf is listed. -/
theorem digests (hall : ∀ d, s.isVisible d) : Mirrors Store.digests s := by
  refine shelfDigests.bind fun ds t h _ => ?_
  have hpasses : Passes s t := by
    simpa [h] using observes_shelfDigests s
  have hlisted : ds.filter t.isVisible = ds :=
    List.filter_eq_self.2 fun d _ => hpasses.isVisible (hall d)
  have hlistedInner : ds.filter t.inner.isVisible = ds :=
    List.filter_eq_self.2 fun d _ => isVisible_inner t d
  rw [outcome_liftM, outcome_liftM, run_settledAmong, run_settledAmong, hlisted, hlistedInner,
    inner_lookedAtAll]

end Mirrors

/-- Where everything is visible an operation that answers does what it does without settling. -/
theorem Operation.mirrors (operation : Operation) (hall : ∀ d, s.isVisible d) :
    Mirrors operation.run s := by
  cases operation with
  | write d b => exact .write d b
  | put entry => exact .put entry
  | read d => exact .read (hall d)
  | fetch d => exact .fetch (hall d)
  | holds d => exact .holds (hall d)
  | digests => exact .digests hall

end Formulary.Store
