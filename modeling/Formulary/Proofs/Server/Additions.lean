import Formulary.Proofs.Disk.Appending
import Formulary.Proofs.Server.Lines
import Formulary.Proofs.Store.Writing

/-!
# What a server does to a disk

A server has its disk in common with whoever else uses it. All that it ever does to the disk is to
make files of entries where nothing was (`getsEntries_answer`), whatever it is asked for; it neither
changes nor removes what is there.
-/

namespace Formulary

/-- Nothing is different but that there are files of entries where nothing was. -/
structure Disk.GetsEntries (disk disk' : Disk) : Prop where
  here_eq : disk'.here = disk.here
  find?_cases : ∀ l, disk'.find? l = disk.find? l ∨
    disk.find? l = none ∧ ∃ entry : Entry, disk'.find? l = some (.file entry.encode)

namespace Disk.GetsEntries

variable {disk disk' disk'' : Disk}

theorem refl (disk : Disk) : GetsEntries disk disk := ⟨rfl, fun _ => .inl rfl⟩

theorem trans (h : GetsEntries disk disk') (h' : GetsEntries disk' disk'') :
    GetsEntries disk disk'' := by
  refine ⟨h'.here_eq.trans h.here_eq, fun l => ?_⟩
  rcases h.find?_cases l with hl | ⟨hl, entry, hentry⟩
  · rw [← hl]
    exact h'.find?_cases l
  · rcases h'.find?_cases l with hl' | ⟨hl', -⟩
    · exact .inr ⟨hl, entry, hl'.trans hentry⟩
    · rw [hentry] at hl'
      cases hl'

/-- What is there stays. -/
theorem find?_eq (h : GetsEntries disk disk') {l : Location} {n : Node}
    (hl : disk.find? l = some n) : disk'.find? l = some n := by
  rcases h.find?_cases l with hl' | ⟨hnone, -⟩
  · exact hl'.trans hl
  · rw [hnone] at hl
    cases hl

/-- Folders stay, for nothing that is there changes. -/
theorem keepsFolders (h : GetsEntries disk disk') : KeepsFolders disk disk' :=
  ⟨h.here_eq, fun _ hl => h.find?_eq hl⟩

/-- Open files stay as well. -/
theorem opensAt (h : GetsEntries disk disk') {path : String} {l : Location}
    (hl : OpensAt disk path l) : OpensAt disk' path l :=
  ⟨h.keepsFolders.resolveNew hl.resolveNew_eq, hl.find?_eq.imp fun _ hb => h.find?_eq hb⟩

end Disk.GetsEntries

namespace Store

variable {ε δ α β : Type}

/-- All that the action does to the disk is to make files of entries. -/
def AddsEntries (x : ExceptT ε Run α) : Prop :=
  ∀ s : Store, s.disk.GetsEntries (outcome x s).2.disk

/-! ## Actions in a row -/

namespace AddsEntries

variable {x : ExceptT ε Run α} {f : α → ExceptT ε Run β}

/-- Two actions in a row only make files of entries if both do. -/
theorem bind (hx : AddsEntries x) (hf : ∀ a, AddsEntries (f a)) : AddsEntries (x >>= f) :=
  rel_outcome_bind (R := fun s t => s.disk.GetsEntries t.disk)
    (fun _ _ _ => Disk.GetsEntries.trans) hx hf

/-- What writes nothing makes no files. -/
theorem of_observes (hx : Observes x) : AddsEntries x := by
  intro s
  rw [(hx s).disk_eq]
  exact .refl s.disk

theorem pure (a : α) : AddsEntries (Pure.pure a : ExceptT ε Run α) := of_observes (.pure a)

theorem throw (e : ε) : AddsEntries (MonadExcept.throw e : ExceptT ε Run α) :=
  of_observes (.throw e)

theorem emit (e : Event) : AddsEntries (liftM (Store.emit e) : ExceptT ε Run Unit) :=
  of_observes (.emit e)

theorem adapt {g : ε → δ} (hx : AddsEntries x) : AddsEntries (ExceptT.adapt g x) := by
  intro s
  rw [outcome_adapt]
  exact hx s

/-- What may fail may also be done without failing, and give the failure. -/
theorem lift (hx : AddsEntries x) : AddsEntries (liftM x.run : ExceptT δ Run (Except ε α)) := by
  intro s
  rw [outcome_liftM]
  exact hx s

end AddsEntries

/-! ## Writing -/

/-- A file is only ever made where nothing is. -/
theorem writeFile_ok_cases {disk disk' : Disk} {path : String} {d : Digest} {b : Bytes}
    {written : Bool} (h : writeFile disk path d b = .ok (written, disk')) :
    disk' = disk ∨ ∃ l, l ≠ [] ∧ disk.find? l = none ∧ disk' = disk.put l (.file b) := by
  rw [writeFile] at h
  split_ifs at h with hhas
  · obtain ⟨-, rfl⟩ := Prod.mk.inj (Except.ok.inj h)
    exact .inl rfl
  · obtain ⟨_, -, h⟩ := bind_eq_ok_iff.1 h
    obtain ⟨_, -, h⟩ := bind_eq_ok_iff.1 h
    rcases keepDraft_cases disk path d with ⟨l, hkeep, hresolve⟩ | ⟨fault, hkeep, -⟩ <;>
      rw [hkeep] at h
    · obtain ⟨-, rfl⟩ := Prod.mk.inj (Except.ok.inj h)
      obtain ⟨m, -, rfl⟩ := exists_leadsTo hresolve
      rw [Disk.has, hresolve] at hhas
      exact .inr ⟨_, fileIn_ne_nil m d, by simpa using hhas, rfl⟩
    · -- of a draft that cannot be kept nothing is left
      cases fault with
      | taken =>
        obtain ⟨-, rfl⟩ := Prod.mk.inj (Except.ok.inj h)
        exact .inl rfl
      | _ => cases h

/-- In memory there are no files, and in a folder there is one for the entry. -/
theorem addsEntries_writeToShelf (d : Digest) (entry : Entry) :
    AddsEntries (writeToShelf d entry.encode) := by
  intro s
  rcases hshelf : s.shelf with entries | path
  · rw [outcome_writeToShelf_of_memory hshelf]
    split_ifs
    · exact .refl s.disk
    · exact .refl s.disk
  · rw [outcome_writeToShelf_of_folder hshelf]
    rcases h : writeFile s.disk path d entry.encode with error | ⟨written, disk⟩
    · exact .refl s.disk
    · change s.disk.GetsEntries disk
      rcases writeFile_ok_cases h with rfl | ⟨l, hl, hfree, rfl⟩
      · exact .refl s.disk
      · refine ⟨rfl, fun m => ?_⟩
        rw [Disk.find?_put _ _ _ hl]
        split_ifs with hm
        · exact .inr ⟨hm ▸ hfree, entry, rfl⟩
        · exact .inl rfl

theorem addsEntries_settle (d : Digest) : AddsEntries (liftM (settle d) : ExceptT ε Run Unit) := by
  intro s
  obtain ⟨settling, hsettle⟩ := exists_run_settle_eq d s
  rw [outcome_liftM, hsettle]
  exact .refl s.disk

theorem addsEntries_write (d : Digest) (entry : Entry) : AddsEntries (write d entry.encode) := by
  refine (addsEntries_writeToShelf d entry).bind fun written => ?_
  cases written with
  | false => exact .pure false
  | true => exact (addsEntries_settle d).bind fun _ => .pure true

theorem addsEntries_put (entry : Entry) : AddsEntries (put entry) := by
  refine (addsEntries_write _ entry).bind fun written => ?_
  cases written with
  | false => exact (AddsEntries.emit _).bind fun _ => .pure _
  | true => exact (AddsEntries.emit _).bind fun _ => .pure _

end Store

/-! ## Requests -/

open Store (AddsEntries)

namespace Registry

variable {α : Type}

theorem addsEntries_reject (rejection : Rejection) : AddsEntries (reject rejection : Request α) :=
  (AddsEntries.emit _).bind fun _ => .throw _

theorem addsEntries_orReject (part : Except Rejection α) : AddsEntries (orReject part) := by
  cases part with
  | error rejection => exact addsEntries_reject rejection
  | ok a => exact .pure a

theorem addsEntries_checkOperands (operands : List Digest) :
    AddsEntries (checkOperands operands) := by
  induction operands with
  | nil => exact .pure ()
  | cons d ds ih =>
    refine (AddsEntries.of_observes (Store.observes_holds d)).adapt.bind fun held => ?_
    cases held with
    | false => exact addsEntries_reject _
    | true => exact ih

/-- To store a program is to put its entry. -/
theorem addsEntries_create (registry : Registry) (source : String) (operands : List Digest) :
    AddsEntries (registry.create source operands) := by
  refine (AddsEntries.of_observes (observes_check registry source)).bind fun tree => ?_
  refine (addsEntries_checkOperands operands).bind fun _ => ?_
  refine (Store.addsEntries_put _).lift.bind fun outcome => ?_
  refine (addsEntries_orReject _).bind fun d => ?_
  exact (AddsEntries.emit _).bind fun _ => (AddsEntries.emit _).bind fun _ => .pure d

end Registry

namespace Server

variable {registry : Registry} {request : Wire.Request}

theorem addsEntries_call (registry : Registry) (asked : Asked) :
    AddsEntries (asked.call registry) := by
  cases asked with
  | accepts source =>
    intro s
    obtain ⟨log, h⟩ := outcome_call_accepts registry source s
    rw [h]
    exact .refl s.disk
  | check source => exact (AddsEntries.of_observes (Registry.observes_check registry source)).lift
  | create source operands => exact Registry.addsEntries_create registry source operands
  | fetch d => exact .of_observes (Registry.observes_fetch d)
  | await d => exact .of_observes (Registry.observes_await registry d)
  | digests => exact .of_observes Registry.observes_digests

/-- A request that asks for something does what its call does, any other one nothing. -/
theorem addsEntries_result [Wording] (registry : Registry) (request : Wire.Request) :
    AddsEntries (result registry request) := by
  by_cases hasks : ∃ asked, Asks request asked
  · obtain ⟨asked, hasked⟩ := hasks
    intro s
    rw [outcome_result_of_asks hasked]
    exact addsEntries_call registry asked s
  · by_cases hmethod : request.method ∈ methods
    · obtain ⟨failure, -, hresult⟩ :=
        exists_failure_of_not_asks registry hmethod (not_exists.1 hasks)
      rw [hresult]
      exact .throw failure
    · rw [result_of_unknown hmethod]
      exact .throw _

/-- Whatever line a server answers, the disk only gets files of entries. -/
theorem getsEntries_answer [Wording] (registry : Registry) (line : String) (s : Store) :
    s.disk.GetsEntries ((answer registry line).run.run s).2.disk := by
  rw [run_answer, reply]
  rcases Wire.read? Wire.Request.ofWritten? line with _ | request
  · exact .refl s.disk
  · simp only [run_respond]
    exact addsEntries_result registry request s

end Server

end Formulary
