import Formulary.Disk
import Formulary.Proofs.Outcome
import Mathlib.Tactic.SplitIfs

/-!
# Files that are added to

Bytes are added to a file along its path (`append`). What a path leads to does not change as long as
the folders stay (`KeepsFolders`), so bytes that are added along the path of a file go to that file
whatever else has been put on the disk (`OpensAt`).

* `exists_opensAt_of_append`: what becomes of bytes that are added.
-/

namespace Formulary.Disk

variable {disk disk' : Disk} {l m : Location} {path : String} {b : Bytes}

/-- The bytes of the file at a location, and none where there is no file. -/
def held (disk : Disk) (l : Location) : Bytes :=
  match disk.find? l with
  | some (.file b) => b
  | _ => []

/-- A file holds its bytes. -/
theorem held_of_find? (h : disk.find? l = some (.file b)) : disk.held l = b := by
  rw [held, h]

/-- Where there is nothing no bytes are held. -/
theorem held_of_missing (h : disk.find? l = none) : disk.held l = [] := by
  rw [held, h]

/-- What is held is told by what stands there. -/
theorem held_eq_of_find?_eq (h : disk'.find? l = disk.find? l) : disk'.held l = disk.held l := by
  rw [held, held, h]

/-- Bytes that are put somewhere are held there, and nothing changes elsewhere. -/
theorem held_put (disk : Disk) (m : Location) (b : Bytes) (hl : l ≠ []) :
    (disk.put l (.file b)).held m = if m = l then b else disk.held m := by
  unfold held
  rw [find?_put _ _ _ hl]
  split_ifs <;> rfl

/-! ## Paths -/

/-- Paths start where they did, and folders stay folders. -/
structure KeepsFolders (disk disk' : Disk) : Prop where
  here_eq : disk'.here = disk.here
  find?_eq : ∀ l, disk.find? l = some .folder → disk'.find? l = some .folder

namespace KeepsFolders

/-- A walk leads through the same folders to the same place. -/
theorem walk (h : KeepsFolders disk disk') {start : Location} {names : List String}
    (hwalk : disk.walk start names = .ok l) : disk'.walk start names = .ok l := by
  induction names generalizing start with
  | nil => exact hwalk
  | cons name names ih =>
    rw [Disk.walk] at hwalk ⊢
    -- the walk found its way, so it starts in a folder
    rcases hstart : disk.find? start with _ | content | _ <;> simp only [hstart] at hwalk
    · cases hwalk
    · cases hwalk
    · simp only [h.find?_eq start hstart]
      split_ifs at hwalk ⊢ <;> exact ih hwalk

/-- A path leads to where it led. -/
theorem resolveNew (h : KeepsFolders disk disk') (hresolve : disk.resolveNew path = .ok l) :
    disk'.resolveNew path = .ok l := by
  rw [Disk.resolveNew, check_bind_eq_ok_iff] at hresolve ⊢
  refine hresolve.imp_right fun hresolve => ?_
  split_ifs at hresolve ⊢
  · obtain ⟨_, -, hfault⟩ := bind_eq_ok_iff.1 hresolve
    cases hfault
  · rw [startOf, h.here_eq]
    exact h.walk hresolve

end KeepsFolders

/-- A file that does not take the place of a folder leaves all folders. -/
theorem keepsFolders_put (hl : l ≠ []) (hfolder : disk.find? l ≠ some .folder) (b : Bytes) :
    KeepsFolders disk (disk.put l (.file b)) := by
  refine ⟨rfl, fun m hm => ?_⟩
  rw [find?_put _ _ _ hl, if_neg (by rintro rfl; exact hfolder hm)]
  exact hm

/-! ## Open files -/

/-- The path leads to a file, and that is where it is. -/
structure OpensAt (disk : Disk) (path : String) (l : Location) : Prop where
  resolveNew_eq : disk.resolveNew path = .ok l
  find?_eq : ∃ b, disk.find? l = some (.file b)

namespace OpensAt

theorem ne_nil (h : OpensAt disk path l) : l ≠ [] := by
  rintro rfl
  obtain ⟨b, hb⟩ := h.find?_eq
  simp [find?] at hb

/-- What is open is no folder. -/
theorem ne_folder (h : OpensAt disk path l) : disk.find? l ≠ some .folder := by
  obtain ⟨b, hb⟩ := h.find?_eq
  simp [hb]

/-- What is added to an open file follows what it holds. -/
theorem append_eq (h : OpensAt disk path l) (b : Bytes) :
    disk.append path b = .ok (disk.put l (.file (disk.held l ++ b))) := by
  obtain ⟨old, hold⟩ := h.find?_eq
  rw [append, h.resolveNew_eq, held_of_find? hold]
  simp only [bind, Except.bind, hold]

/-- A file stays open when another one is put somewhere, or itself is written. -/
theorem put (h : OpensAt disk path l) (hm : m ≠ []) (hfolder : disk.find? m ≠ some .folder)
    (b : Bytes) : OpensAt (disk.put m (.file b)) path l := by
  refine ⟨(keepsFolders_put hm hfolder b).resolveNew h.resolveNew_eq, ?_⟩
  rw [find?_put _ _ _ hm]
  split_ifs
  · exact ⟨b, rfl⟩
  · exact h.find?_eq

end OpensAt

/-- What can be added goes to the end of a file, which is made if there is none, and the path leads
    to it from then on. -/
theorem exists_opensAt_of_append (h : disk.append path b = .ok disk') : ∃ l, OpensAt disk' path l ∧
    l ≠ [] ∧ disk.find? l ≠ some .folder ∧ disk' = disk.put l (.file (disk.held l ++ b)) := by
  obtain ⟨l, hresolve, h⟩ := bind_eq_ok_iff.1 h
  obtain ⟨hfolder, rfl⟩ : disk.find? l ≠ some .folder ∧
      disk' = disk.put l (.file (disk.held l ++ b)) := by
    rcases hfind : disk.find? l with _ | ⟨old⟩ | _ <;> simp only [hfind] at h
    · exact ⟨nofun, by rw [held_of_missing hfind]; exact (Except.ok.inj h).symm⟩
    · exact ⟨nofun, by rw [held_of_find? hfind]; exact (Except.ok.inj h).symm⟩
    · cases h
  have hl : l ≠ [] := by
    rintro rfl
    exact hfolder (if_pos rfl)
  refine ⟨l, ⟨(keepsFolders_put hl hfolder _).resolveNew hresolve, ?_⟩, hl, hfolder, rfl⟩
  rw [find?_put _ _ _ hl, if_pos rfl]
  exact ⟨_, rfl⟩

end Formulary.Disk
