import Formulary.Proofs.Store.Files
import Formulary.Proofs.Store.Outcomes

/-!
# What writing changes

What is put under a digest is there from then on, unless there was something before, and nothing
changes under other digests (`Receives`). An entry that is put either changes nothing and ends in an
error of the disk, or is received, and then its digest is given unless the clock runs out
(`outcome_put_cases`).
-/

namespace Formulary.Store

/-! ## What is on a shelf -/

theorem bytes?_of_memory {s : Store} {entries : List (Digest × Bytes)}
    (h : s.shelf = .memory entries) (d : Digest) : s.bytes? d = .ok (entries.lookup d) := by
  rw [bytes?, h]

theorem bytes?_of_folder {s : Store} {path : String} (h : s.shelf = .folder path) (d : Digest) :
    s.bytes? d = fileBytes? s.disk path d := by
  rw [bytes?, h]

/-- An entry behind the others is found if there is none in its place before it. -/
theorem bytes?_append {s : Store} {entries : List (Digest × Bytes)} {d : Digest}
    (h : s.shelf = .memory entries) (hfree : entries.lookup d = none) (b : Bytes) (e : Digest) :
    bytes? { s with shelf := .memory (entries ++ [(d, b)]) } e =
      if e = d then .ok (some b) else s.bytes? e := by
  rw [bytes?_of_memory rfl, bytes?_of_memory h, List.lookup_append]
  split_ifs with he
  · simp [he, hfree]
  · have hne : (e == d) = false := by simpa using he
    simp [List.lookup_cons, hne]

/-! ## Empty stores -/

/-- Nothing is found under any digest, and looking for it does not fail. -/
def IsEmpty (s : Store) : Prop :=
  ∀ d, s.bytes? d = .ok none

theorem isEmpty_inMemory (settle : Option Duration) (disk : Disk) (now : Instant) :
    (inMemory settle disk now).IsEmpty :=
  fun _ => rfl

/-- A store in a folder is empty if no file there has the name of an entry. -/
theorem isEmpty_of_leadsTo {s : Store} {path : String} {m : Location}
    (hshelf : s.shelf = .folder path) (h : LeadsTo s.disk path m)
    (hfree : ∀ d, s.disk.find? (fileIn m d) = none) : s.IsEmpty := by
  intro d
  rw [bytes?_of_folder hshelf]
  exact h.fileBytes?_of_missing (hfree d)

/-! ## Writing -/

/-- In `t` there is what was in `s`, and the bytes under the digest if there was nothing. -/
def Receives (s : Store) (d : Digest) (b : Bytes) (t : Store) : Prop :=
  ∀ e, t.bytes? e = if e = d ∧ s.bytes? d = .ok none then .ok (some b) else s.bytes? e

/-- What is written now becomes visible at a moment that can be told. -/
def SettlesInTime (s : Store) : Prop :=
  ∀ settling ∈ s.settling, s.now + settling.delay < clockEnd

theorem settlesInTime_iff {s : Store} :
    s.SettlesInTime ↔ ∀ delay ∈ s.delay?, s.now + delay < clockEnd := by
  rw [SettlesInTime, delay?]
  cases s.settling <;> simp

/-- Whether that moment can be told does not depend on looks. -/
theorem Looked.settlesInTime_iff {s t : Store} (h : Looked s t) :
    t.SettlesInTime ↔ s.SettlesInTime := by
  rw [Store.settlesInTime_iff, Store.settlesInTime_iff, h.delay?_eq, h.now_eq]

/-- The store in which what is under a digest becomes visible at a moment. -/
def withStart (s : Store) (settling : Settling) (d : Digest) (start : Instant) : Store :=
  { s with settling := some { settling with visibleFrom := (d, start) :: settling.visibleFrom } }

theorem run_settle_of_some (d : Digest) {s : Store} {settling : Settling}
    (h : s.settling = some settling) :
    (settle d).run.run s =
      if s.now + settling.delay < clockEnd then
        (some (), s.withStart settling d (s.now + settling.delay))
      else (none, s) := by
  rcases s with ⟨shelf, _, disk, now, log⟩
  obtain rfl := h
  have hsettle : (settle d).run.run ⟨shelf, some settling, disk, now, log⟩ =
      ((if now + settling.delay < clockEnd then pure (now + settling.delay) else failure) >>=
        fun start => modify fun s => s.withStart settling d start : Run Unit).run.run
          ⟨shelf, some settling, disk, now, log⟩ := rfl
  rw [hsettle]
  split_ifs <;> rfl

theorem run_settle_of_none (d : Digest) {s : Store} (h : s.settling = none) :
    (settle d).run.run s = (some (), s) := by
  rcases s with ⟨shelf, _, disk, now, log⟩
  obtain rfl := h
  rfl

/-- Nothing is changed by it but when what settles becomes visible. -/
theorem exists_run_settle_eq (d : Digest) (s : Store) :
    ∃ settling, ((settle d).run.run s).2 = { s with settling } := by
  rcases hsettling : s.settling with _ | settling
  · rw [run_settle_of_none d hsettling]
    exact ⟨s.settling, rfl⟩
  · rw [run_settle_of_some d hsettling]
    split_ifs
    · exact ⟨_, rfl⟩
    · exact ⟨s.settling, rfl⟩

/-- What settles stays where it is. -/
theorem run_settle_cases (d : Digest) (s : Store) : ∃ t, t.bytes? = s.bytes? ∧
    ((settle d).run.run s = (some (), t) ∨ (settle d).run.run s = (none, t)) := by
  rcases hsettling : s.settling with _ | settling
  · exact ⟨s, rfl, .inl (run_settle_of_none d hsettling)⟩
  · rw [run_settle_of_some d hsettling]
    split_ifs
    · exact ⟨s.withStart settling d (s.now + settling.delay), rfl, .inl rfl⟩
    · exact ⟨s, rfl, .inr rfl⟩

theorem outcome_writeToShelf_cases (d : Digest) (b : Bytes) (s : Store) :
    (∃ error, outcome (writeToShelf d b) s = (some (.error error), s)) ∨
    (outcome (writeToShelf d b) s = (some (.ok false), s) ∧ s.bytes? d ≠ .ok none) ∨
    ∃ t, outcome (writeToShelf d b) s = (some (.ok true), t) ∧ s.bytes? d = .ok none ∧
      ∀ e, t.bytes? e = if e = d then .ok (some b) else s.bytes? e := by
  rcases hshelf : s.shelf with entries | path
  · rw [outcome_writeToShelf_of_memory hshelf, bytes?_of_memory hshelf]
    split_ifs with hd
    · exact .inr (.inl ⟨rfl, by simpa using Option.isSome_iff_ne_none.1 hd⟩)
    · have hfree : entries.lookup d = none := Option.not_isSome_iff_eq_none.1 hd
      exact .inr (.inr ⟨_, rfl, congrArg Except.ok hfree, bytes?_append hshelf hfree b⟩)
  · rw [outcome_writeToShelf_of_folder hshelf, bytes?_of_folder hshelf]
    rcases writeFile_cases s.disk path d b with ⟨error, h⟩ | ⟨h, hd⟩ | ⟨disk, h, hd, hall⟩
    · rw [h]
      exact .inl ⟨error, rfl⟩
    · rw [h]
      exact .inr (.inl ⟨rfl, hd⟩)
    · rw [h]
      refine .inr (.inr ⟨_, rfl, hd, fun e => ?_⟩)
      have hstays : { s with disk }.shelf = .folder path := hshelf
      rw [bytes?_of_folder hstays, bytes?_of_folder hshelf, hall]

theorem outcome_write_cases (d : Digest) (b : Bytes) (s : Store) :
    (∃ error, outcome (write d b) s = (some (.error error), s)) ∨
    ∃ t, Receives s d b t ∧
      ((∃ written, outcome (write d b) s = (some (.ok written), t)) ∨
        outcome (write d b) s = (none, t)) := by
  rcases outcome_writeToShelf_cases d b s with ⟨error, h⟩ | ⟨h, hd⟩ | ⟨t, h, hd, hall⟩
  · exact .inl ⟨error, outcome_bind_of_error h _⟩
  · refine .inr ⟨s, fun e => ?_, .inl ⟨false, ?_⟩⟩
    · rw [if_neg fun he => hd he.2]
    · rw [write, outcome_bind_of_ok h]
      rfl
  · -- what was written settles, which changes no bytes but may run out of time
    obtain ⟨u, hu, hsettle⟩ := run_settle_cases d t
    refine .inr ⟨u, fun e => ?_, ?_⟩
    · rw [hu, hall]
      simp only [hd, and_true]
    · rw [write, outcome_bind_of_ok h]
      simp only [if_true]
      rcases hsettle with hsettle | hsettle
      · refine .inl ⟨true, ?_⟩
        rw [outcome_bind_of_ok (by rw [outcome_liftM, hsettle]; rfl)]
        rfl
      · exact .inr (outcome_bind_of_none (by rw [outcome_liftM, hsettle]; rfl) _)

/-- An entry that is put is received, and its digest given unless the clock runs out, or the disk
    fails and nothing changes. -/
theorem outcome_put_cases (entry : Entry) (s : Store) :
    (∃ error, outcome (put entry) s = (some (.error error), s)) ∨
    ∃ t, Receives s entry.digest entry.encode t ∧
      (outcome (put entry) s = (some (.ok entry.digest), t) ∨
        outcome (put entry) s = (none, t)) := by
  rcases outcome_write_cases entry.digest entry.encode s with ⟨error, h⟩ |
    ⟨t, ht, ⟨written, h⟩ | h⟩
  · exact .inl ⟨error, outcome_bind_of_error h _⟩
  · refine .inr ⟨{ t with log := t.log ++
      [if written then .written entry.digest else .alreadyWritten entry.digest] }, ht, .inl ?_⟩
    rw [put, outcome_bind_of_ok h]
    cases written <;> rfl
  · exact .inr ⟨t, ht, .inr (outcome_bind_of_none h _)⟩

end Formulary.Store
