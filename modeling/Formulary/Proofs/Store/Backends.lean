import Formulary.Proofs.Store.Growing

/-!
# A folder does what memory does

A store in a folder and one in memory that hold the same, at the same time, give the same answer to
whatever they are asked, and hold the same afterwards (`Alike.ask`). A store in a folder may also be
dropped, and opened again from what is on the disk (`Alike.reopened`).

* `answers_inFolder_eq`: a store in an empty folder answers like one in memory, opened again or not.
-/

namespace Formulary.Store

open Disk

/-! ## Opening again -/

/-- A folder that is there is opened as it is. -/
theorem Tidy.run_inFolder {disk : Disk} {path : String} {m : Location} (h : Tidy disk path m)
    (settle : Option Duration) (now : Instant) :
    (inFolder path settle now).run.run disk =
      (.ok ⟨.folder path, settle.map (⟨·, []⟩), disk, now, [.folderOpened path]⟩, disk) := by
  have hcheck := checkPath_of_join h.path_ne (h.leadsTo.checkPath_eq (Digest.of []))
  have hmade := run_makeFolders_of_walk hcheck h.leadsTo.walk_eq h.leadsTo.isFolder
  have hadapt : (ExceptT.adapt (fun fault => Error.disk (.opening path fault))
      (makeFolders path)).run.run disk =
        (((makeFolders path).run.run disk).1.mapError fun fault => .disk (.opening path fault),
          ((makeFolders path).run.run disk).2) := rfl
  rw [hmade] at hadapt
  rw [inFolder]
  simp only [ExceptT.run_bind, StateT.run_bind, hadapt]
  rfl

/-- The store is dropped, and opened again from what is left: a folder as it is on the disk, while
    what was in memory is lost. -/
def reopened (s : Store) : Except Error Store :=
  match s.shelf with
  | .memory _ => .ok (inMemory none s.disk s.now)
  | .folder path => ((inFolder path none s.now).run.run s.disk).1

/-! ## Stores that are asked -/

/-- What can be asked of a store when it is its turn: an operation, or to wait for an entry. -/
inductive Task
  | operate (operation : Operation)
  | await (d : Digest) (patience : Patience)

namespace Task

abbrev Answer : Task → Type
  | operate operation => operation.Answer
  | await _ _ => Entry

def run : (task : Task) → Action task.Answer
  | operate operation => operation.run
  | await d patience => Store.await d patience

def answer? (s : Store) (task : Task) : Option (Except Error task.Answer) :=
  (outcome task.run s).1

def after (s : Store) (task : Task) : Store :=
  (outcome task.run s).2

end Task

/-- What happens to a store: it is asked for something, time passes, or it is opened again. -/
inductive Move
  | ask (task : Task)
  | elapse (d : Duration)
  | reopen

/-- The store stays open. -/
def Move.staysOpen : Move → Bool
  | reopen => false
  | _ => true

/-- The answers to what is asked in turn, up to where the store cannot be opened again. -/
def answers : List Move → Store → List ((task : Task) × Option (Except Error task.Answer))
  | [], _ => []
  | .ask task :: moves, s => ⟨task, task.answer? s⟩ :: answers moves (task.after s)
  | .elapse d :: moves, s => answers moves (s.atTime (s.now + d))
  | .reopen :: moves, s =>
    match s.reopened with
    | .ok t => answers moves t
    | .error _ => []

/-! ## Stores that hold the same -/

/-- Two stores that nobody disturbs and that do not settle hold the same at the same time. -/
structure Alike (s t : Store) : Prop where
  left : s.Undisturbed
  right : t.Undisturbed
  left_settling : s.settling = none
  right_settling : t.settling = none
  now_eq : s.now = t.now
  bytes?_eq : s.bytes? = t.bytes?

variable {s t : Store}

namespace Alike

/-- Looks at the one or the other make no difference. -/
theorem of_looked {u v : Store} (h : Alike s t) (hu : Looked s u) (hv : Looked t v) :
    Alike u v := by
  refine ⟨h.left.of_passes hu.toPasses, h.right.of_passes hv.toPasses,
    hu.settling_eq_none h.left_settling, hv.settling_eq_none h.right_settling, ?_, ?_⟩
  · rw [hu.now_eq, hv.now_eq, h.now_eq]
  · rw [hu.bytes?_eq, hv.bytes?_eq, h.bytes?_eq]

theorem atTime (h : Alike s t) (now : Instant) : Alike (s.atTime now) (t.atTime now) :=
  ⟨h.left.of_eq rfl rfl, h.right.of_eq rfl rfl, h.left_settling, h.right_settling, rfl,
    h.bytes?_eq⟩

/-- What cannot be told apart gives the same to whoever looks. -/
theorem fetch?_eq (h : Alike s t) (d : Digest) : s.fetch? d = t.fetch? d := by
  rw [fetch?_of_none h.left_settling, fetch?_of_none h.right_settling, h.bytes?_eq]

/-- What both have got is in both. -/
theorem of_grows {u v : Store} (h : Alike s t) {d : Digest} {b : Bytes} (hu : Grows s d b u)
    (hv : Grows t d b v) : Alike u v := by
  refine ⟨hu.undisturbed, hv.undisturbed, hu.settling_eq_none h.left_settling,
    hv.settling_eq_none h.right_settling, ?_, funext fun e => ?_⟩
  · rw [hu.now_eq, hv.now_eq, h.now_eq]
  · rw [hu.bytes?_eq, hv.bytes?_eq, h.bytes?_eq]

end Alike

/-- The action gives the same result on both stores, and leaves them alike. -/
def Agree {α : Type} (x : Action α) (s t : Store) : Prop :=
  (outcome x s).1 = (outcome x t).1 ∧ Alike (outcome x s).2 (outcome x t).2

namespace Agree

variable {α β : Type} {x : Action α} {f : α → Action β}

/-- One action after another goes alike if each of them does, whatever the first one leaves. -/
theorem bind (hx : Agree x s t) (hf : ∀ a u v, Alike u v → Agree (f a) u v) :
    Agree (x >>= f) s t := by
  obtain ⟨hfst, halike⟩ := hx
  rcases hs : outcome x s with ⟨r, u⟩
  rcases ht : outcome x t with ⟨r', v⟩
  rw [hs, ht] at hfst halike
  obtain rfl : r = r' := hfst
  -- if the first action ends both, they are left as it leaves them
  rcases r with _ | error | a
  · rw [Agree, outcome_bind_of_none hs, outcome_bind_of_none ht]
    exact ⟨rfl, halike⟩
  · rw [Agree, outcome_bind_of_error hs, outcome_bind_of_error ht]
    exact ⟨rfl, halike⟩
  · obtain ⟨hfst, halike⟩ := hf a u v halike
    rw [Agree, outcome_bind_of_ok hs, outcome_bind_of_ok ht]
    exact ⟨hfst, halike⟩

theorem pure (h : Alike s t) (a : α) : Agree (Pure.pure a) s t := ⟨rfl, h⟩

/-- What is logged is not looked at by anybody. -/
theorem emit (h : Alike s t) (event : Event) :
    Agree (liftM (Store.emit event) : Action Unit) s t :=
  ⟨rfl, h.of_looked (.of_log _ _) (.of_log _ _)⟩

end Agree

namespace Alike

variable {α : Type} {x : Action α}

/-- What gives the same result and just looks leaves the stores alike. -/
theorem agree_of_looked {u v : Store} (h : Alike s t) {r : Option (Except Error α)}
    (hu : Looked s u) (hv : Looked t v) (hs : outcome x s = (r, u)) (ht : outcome x t = (r, v)) :
    Agree x s t := by
  rw [Agree, hs, ht]
  exact ⟨rfl, h.of_looked hu hv⟩

/-- Both write it, or both have it already. -/
theorem write (h : Alike s t) (d : Digest) (b : Bytes) : Agree (Store.write d b) s t := by
  have hs := settlesInTime_of_none h.left_settling
  have ht := settlesInTime_of_none h.right_settling
  rcases h.left.write_cases d b with ⟨hheld, hleft⟩ | ⟨hnone, u, hu, ⟨-, hleft⟩ | ⟨hclock, -⟩⟩
  · rcases h.right.write_cases d b with ⟨-, hright⟩ | ⟨hnone, -⟩
    · exact h.agree_of_looked (.refl s) (.refl t) hleft hright
    · exact absurd (h.bytes?_eq ▸ hnone) hheld
  · rcases h.right.write_cases d b with
      ⟨hheld, -⟩ | ⟨-, v, hv, ⟨-, hright⟩ | ⟨hclock, -⟩⟩
    · exact absurd (h.bytes?_eq ▸ hnone) hheld
    · rw [Agree, hleft, hright]
      exact ⟨rfl, h.of_grows hu hv⟩
    · exact absurd ht hclock
  · exact absurd hs hclock

theorem put (h : Alike s t) (entry : Entry) : Agree (Store.put entry) s t := by
  refine (h.write _ _).bind fun written u v hu => ?_
  cases written with
  | false => exact (Agree.emit hu _).bind fun _ _ _ hv => .pure hv _
  | true => exact (Agree.emit hu _).bind fun _ _ _ hv => .pure hv _

theorem read (h : Alike s t) (d : Digest) : Agree (Store.read d) s t := by
  have ht := outcome_read d t
  rw [← h.fetch?_eq] at ht
  exact h.agree_of_looked (.lookedAt s d) (.lookedAt t d) (outcome_read d s) ht

theorem fetch (h : Alike s t) (d : Digest) : Agree (Store.fetch d) s t := by
  obtain ⟨log, hs⟩ := outcome_fetch d s
  obtain ⟨log', ht⟩ := outcome_fetch d t
  rw [← h.fetch?_eq] at ht
  exact ⟨by rw [hs, ht], h.of_looked (looked_fetch d s) (looked_fetch d t)⟩

theorem holds (h : Alike s t) (d : Digest) : Agree (Store.holds d) s t :=
  (h.read d).bind fun _ _ _ hu => .pure hu _

/-- Both list what they hold, in order. -/
theorem digests (h : Alike s t) : Agree Store.digests s t := by
  obtain ⟨ds, log, hs, hds, hmem⟩ := h.left.outcome_shelfDigests
  obtain ⟨es, log', ht, hes, hmem'⟩ := h.right.outcome_shelfDigests
  obtain rfl : ds = es := hds.eq_of_mem_iff hes fun d => by rw [hmem, hmem', h.bytes?_eq]
  exact h.agree_of_looked (.of_log s log) (.of_log t log')
    (outcome_digests_of_none hs h.left_settling) (outcome_digests_of_none ht h.right_settling)

/-- So nobody can tell them apart by operations. -/
theorem operate (h : Alike s t) (operation : Operation) : Agree operation.run s t := by
  cases operation with
  | write d b => exact h.write d b
  | put entry => exact h.put entry
  | read d => exact h.read d
  | fetch d => exact h.fetch d
  | holds d => exact h.holds d
  | digests => exact h.digests

end Alike

/-! ## Waiting -/

namespace Alike

/-- Both look at the same moments, and find the same. -/
theorem awaitUntil (h : Alike s t) (d : Digest) (pollInterval : Duration) (deadline : Instant)
    (attempts : UInt32) :
    (Store.awaitUntil d pollInterval deadline attempts s).1 =
        (Store.awaitUntil d pollInterval deadline attempts t).1 ∧
      Alike (Store.awaitUntil d pollInterval deadline attempts s).2
        (Store.awaitUntil d pollInterval deadline attempts t).2 := by
  -- what the look at the one store gives tells the way also at the other one
  fun_induction Store.awaitUntil d pollInterval deadline attempts s generalizing t with
  | case1 attempts s hcount e looked hfetch hnow ih =>
    obtain ⟨hfst, hlooked⟩ := h.fetch d
    rw [outcome, hfetch] at hfst hlooked
    rw [awaitUntil_of_missing hcount hfst.symm, ← h.now_eq, if_pos hnow]
    exact ih (hlooked.atTime _)
  | case2 attempts s hcount e looked hfetch hnow =>
    obtain ⟨hfst, hlooked⟩ := h.fetch d
    rw [outcome, hfetch] at hfst hlooked
    rw [awaitUntil_of_missing hcount hfst.symm, ← h.now_eq, if_neg hnow]
    exact ⟨rfl, hlooked.of_looked (.of_log _ _) (.of_log _ _)⟩
  | case3 attempts s hcount hother =>
    obtain ⟨hfst, hlooked⟩ := h.fetch d
    have hfound : ∀ e, (outcome (Store.fetch d) t).1 ≠ some (.error (.notFound e)) := by
      intro e he
      rw [← hfst] at he
      exact hother e _ (Prod.ext he rfl)
    rw [awaitUntil_of_found hcount hfound]
    exact ⟨hfst, hlooked⟩
  | case4 attempts s hcount =>
    rw [awaitUntil_of_uncounted hcount]
    exact ⟨rfl, h⟩

/-- Both wait as long as each other, for every look finds the same. -/
theorem await (h : Alike s t) (d : Digest) (patience : Patience) :
    Agree (Store.await d patience) s t := by
  have hlater : Agree (liftM (later patience.timeout) : Action Instant) s t := by
    rw [Agree, outcome_later, outcome_later, h.now_eq]
    split_ifs
    · exact ⟨rfl, h⟩
    · exact ⟨rfl, h⟩
  exact hlater.bind fun deadline _ _ hu => hu.awaitUntil d patience.pollInterval deadline 0

/-- Whatever the two stores are asked, they answer the same and stay alike. -/
theorem ask (h : Alike s t) (task : Task) :
    task.answer? s = task.answer? t ∧ Alike (task.after s) (task.after t) := by
  cases task with
  | operate operation => exact h.operate operation
  | await d patience => exact h.await d patience

end Alike

/-! ## A folder stays one -/

/-- A store in the folder is still one after the action. -/
def StaysIn {α : Type} (path : String) (x : Action α) : Prop :=
  ∀ s, s.shelf = .folder path → (outcome x s).2.shelf = .folder path

namespace StaysIn

variable {α β : Type} {path : String} {x : Action α} {f : α → Action β}

theorem bind (hx : StaysIn path x) (hf : ∀ a, StaysIn path (f a)) : StaysIn path (x >>= f) :=
  rel_outcome_bind (R := fun s t => s.shelf = .folder path → t.shelf = .folder path)
    (fun _ _ _ h h' hs => h' (h hs)) hx hf

/-- Whoever writes nothing leaves a store where it is. -/
theorem of_observes (hx : Observes x) : StaysIn path x :=
  fun s hs => (hx s).shelf_eq.trans hs

theorem writeToShelf (d : Digest) (b : Bytes) : StaysIn path (Store.writeToShelf d b) := by
  intro s hs
  rw [outcome_writeToShelf_of_folder hs]
  rcases writeFile s.disk path d b with error | ⟨written, disk⟩
  · exact hs
  · exact hs

theorem settle (d : Digest) : StaysIn path (liftM (Store.settle d) : Action Unit) := by
  intro s hs
  obtain ⟨settling, hsettle⟩ := exists_run_settle_eq d s
  rw [outcome_liftM, hsettle]
  exact hs

theorem write (d : Digest) (b : Bytes) : StaysIn path (Store.write d b) := by
  refine (writeToShelf d b).bind fun written => ?_
  cases written with
  | false => exact of_observes (.pure false)
  | true => exact (settle d).bind fun _ => of_observes (.pure true)

theorem put (entry : Entry) : StaysIn path (Store.put entry) := by
  refine (write _ _).bind fun written => of_observes ?_
  cases written with
  | false => exact (Observes.emit _).bind fun _ => .pure _
  | true => exact (Observes.emit _).bind fun _ => .pure _

theorem operate (operation : Operation) : StaysIn path operation.run := by
  cases operation with
  | write d b => exact write d b
  | put entry => exact put entry
  | read d => exact of_observes (observes_read d)
  | fetch d => exact of_observes (observes_fetch d)
  | holds d => exact of_observes (observes_holds d)
  | digests => exact of_observes observes_digests

theorem ask (task : Task) : StaysIn path task.run := by
  cases task with
  | operate operation => exact operate operation
  | await d patience => exact of_observes (observes_await d patience)

end StaysIn

/-! ## Runs -/

/-- A folder that is opened again is like any store that it was like. -/
theorem Alike.reopened (h : Alike s t) {path : String} (hs : s.shelf = .folder path) :
    ∃ u, s.reopened = .ok u ∧ Alike u t ∧ u.shelf = .folder path := by
  obtain ⟨m, htidy⟩ : ∃ m, Tidy s.disk path m := by
    cases h.left with
    | memory hshelf => simp [hs] at hshelf
    | @folder _ m hshelf htidy =>
      obtain rfl := Shelf.folder.inj (hs.symm.trans hshelf)
      exact ⟨m, htidy⟩
  refine ⟨⟨.folder path, none, s.disk, s.now, [.folderOpened path]⟩, ?_, ?_, rfl⟩
  · rw [Store.reopened, hs]
    exact congrArg Prod.fst (htidy.run_inFolder none s.now)
  · refine ⟨.folder rfl htidy, h.right, rfl, h.right_settling, h.now_eq, ?_⟩
    rw [← h.bytes?_eq]
    funext d
    rw [bytes?, bytes?, hs]

/-- A store in a folder answers like any store that it is like, however often it is opened again. -/
theorem Alike.answers_eq (h : Alike s t) {path : String} (hs : s.shelf = .folder path)
    (moves : List Move) : answers moves s = answers (moves.filter Move.staysOpen) t := by
  induction moves generalizing s t with
  | nil => rfl
  | cons move moves ih =>
    cases move with
    | ask task =>
      obtain ⟨hanswer, hafter⟩ := h.ask task
      rw [List.filter_cons_of_pos rfl, answers, answers, hanswer]
      exact congrArg _ (ih hafter (StaysIn.ask task s hs))
    | elapse d =>
      rw [List.filter_cons_of_pos rfl, answers, answers, h.now_eq]
      exact ih (h.atTime _) hs
    | reopen =>
      obtain ⟨u, hu, halike, hshelf⟩ := h.reopened hs
      rw [List.filter_cons_of_neg (by simp [Move.staysOpen]), answers, hu]
      exact ih halike hshelf

/-- A store in an empty folder that nobody else touches, and where files can be made, can be opened.
    It gives the answers of a store in memory to whatever it is asked in turn, also when it is
    dropped and opened again in between. -/
theorem answers_inFolder_eq {disk : Disk} {path : String} {m : Location} (h : Tidy disk path m)
    (hempty : disk.namesIn m = []) (now : Instant) (elsewhere : Disk) :
    ∃ s, (inFolder path none now).run.run disk = (.ok s, disk) ∧
      ∀ moves, answers moves s =
        answers (moves.filter Move.staysOpen) (inMemory none elsewhere now) := by
  refine ⟨_, h.run_inFolder none now, Alike.answers_eq ?_ rfl⟩
  refine ⟨.folder rfl h, .memory rfl List.nodup_nil, rfl, rfl, rfl, funext fun d => ?_⟩
  have hfree : disk.find? (fileIn m d) = none := by
    have hname : fileName d ∉ disk.namesIn m := by simp [hempty]
    rwa [mem_namesIn_iff, Option.not_isSome_iff_eq_none] at hname
  exact h.leadsTo.fileBytes?_of_missing hfree

/-- What is written to an empty folder is there when it is opened again, and is not written over. -/
theorem answers_inFolder_eq_reopened :
    let disk : Disk := ⟨[], [(["entries"], .folder)], fun _ => none⟩
    let d : Digest := ⟨List.replicate 32 0, rfl⟩
    let moves : List Move := [.ask (.operate (.write d [1])), .reopen,
      .ask (.operate (.write d [2])), .ask (.operate (.read d))]
    ∃ s, (inFolder "/entries" none 0).run.run disk = (.ok s, disk) ∧
      answers moves s = [⟨.operate (.write d [1]), some (.ok true)⟩,
        ⟨.operate (.write d [2]), some (.ok false)⟩,
        ⟨.operate (.read d), some (.ok (some [1]))⟩] := by
  intro disk d moves
  obtain ⟨s, hs, hanswers⟩ := answers_inFolder_eq tidy_only (by decide) 0 .empty
  refine ⟨s, hs, ?_⟩
  rw [hanswers]
  rfl

end Formulary.Store
