import Formulary.Proofs.Digest.Text
import Formulary.Proofs.Store.Growing

/-!
# Folders with other files

A folder may have files in it that its store has not written. A store looks for an entry under one
name, that of `fileName`, but it lists all names that it can read as digests: those whose digits are
in upper case too, and those with blanks around the digits (`NamedFor`).

* `digests_of_files`: what is listed, and when it is what is there.
-/

namespace Formulary.Store

open Disk

variable {s : Store} {path name : String} {m : Location} {d : Digest}

/-! ## Names that are read as digests -/

/-- The name is that of the file of an entry, but for the case of its digits and blanks around
    them. -/
def NamedFor (name : String) (d : Digest) : Prop :=
  ∃ stem, name = stem ++ ".entry" ∧ (Text.trim stem).toLower = d.toText

theorem digestOfName?_eq_ok_iff : digestOfName? name = some (.ok d) ↔ NamedFor name d := by
  have hending : '.' ∉ extension.toList := by decide
  have hjoin (stem : String) : stem ++ "." ++ extension = stem ++ ".entry" := by
    rw [String.append_assoc]
    rfl
  constructor
  · intro h
    rw [digestOfName?] at h
    rcases hsplit : splitName? name with _ | ⟨stem, ending⟩
    · simp [hsplit] at h
    · simp only [hsplit] at h
      split_ifs at h with heq
      subst heq
      obtain ⟨rfl, -, -⟩ := splitName?_eq_some_iff.1 hsplit
      exact ⟨stem, hjoin stem, Digest.ofText_eq_ok_iff.1 (Option.some.inj h)⟩
  · rintro ⟨stem, rfl, hstem⟩
    -- there is something to read, for a digest is not written as the empty text
    have hne : stem ≠ "" := by
      rintro rfl
      exact toText_ne_empty d (hstem.symm.trans (by decide +kernel))
    rw [digestOfName?, ← hjoin, splitName?_eq_some_iff.2 ⟨rfl, hne, hending⟩]
    dsimp only
    rw [if_pos rfl, Digest.ofText_eq_ok_iff.2 hstem]

theorem namedFor_fileName (d : Digest) : NamedFor (fileName d) d :=
  digestOfName?_eq_ok_iff.1 (digestOfName?_fileName d)

/-! ## Folders of files -/

/-- The path of the store leads to the folder at `m`, and in it there are only files. -/
structure HasFiles (disk : Disk) (path : String) (m : Location) : Prop where
  leadsTo : LeadsTo disk path m
  path_ne : path ≠ ""
  isMap : disk.IsMap
  isFile : ∀ name ∈ disk.namesIn m, disk.find? (m ++ [name]) ≠ some .folder

/-- What is looked for is the file of the one name. -/
theorem HasFiles.outcome_holds (h : HasFiles s.disk path m) (hshelf : s.shelf = .folder path)
    (hsettling : s.settling = none) (d : Digest) :
    outcome (holds d) s = (some (.ok (decide (fileName d ∈ s.disk.namesIn m))), s) := by
  have hname : fileName d ∈ s.disk.namesIn m ↔ (s.disk.find? (fileIn m d)).isSome :=
    mem_namesIn_iff
  rw [Store.outcome_holds, lookedAt_of_none hsettling, fetch?_of_none hsettling, bytes?, hshelf]
  dsimp only
  rcases hnode : s.disk.find? (fileIn m d) with _ | b | _
  · rw [h.leadsTo.fileBytes?_of_missing hnode]
    simp [hname, hnode, Except.map]
  · rw [fileBytes?, h.leadsTo.read_eq, content, hnode]
    simp [hname, hnode, Except.map]
  · exact absurd hnode (h.isFile _ (hname.2 (by rw [hnode]; rfl)))

theorem mem_listed_iff : d ∈ (s.disk.namesIn m).filterMap (listedAs? path) ↔
    ∃ name ∈ s.disk.namesIn m, NamedFor name d := by
  simp only [List.mem_filterMap, listedAs?_eq_some_iff, digestOfName?_eq_ok_iff]

/-- Whatever files are in the folder of a store, the digests that their names are read as are listed
    in order, and an entry is held exactly if the file of its own name is there. So nothing is
    listed twice exactly if no two names are read as one digest, and what is listed is what is held
    exactly if the file of the own name is there for every digest that a name is read as. -/
theorem digests_of_files (h : HasFiles s.disk path m) (hshelf : s.shelf = .folder path)
    (hsettling : s.settling = none) :
    ∃ ds, (outcome digests s).1 = some (.ok ds) ∧ (ds.Pairwise fun d e => d.le e) ∧
      (∀ d, d ∈ ds ↔ ∃ name ∈ s.disk.namesIn m, NamedFor name d) ∧
      (∀ d, (outcome (holds d) s).1 = some (.ok (decide (fileName d ∈ s.disk.namesIn m)))) ∧
      (Digest.Increasing ds ↔ ∀ name ∈ s.disk.namesIn m, ∀ other ∈ s.disk.namesIn m, ∀ d,
        NamedFor name d → NamedFor other d → name = other) ∧
      ((∀ d, d ∈ ds ↔ (outcome (holds d) s).1 = some (.ok true)) ↔
        ∀ name ∈ s.disk.namesIn m, ∀ d, NamedFor name d → fileName d ∈ s.disk.namesIn m) := by
  obtain ⟨ds, log, hlisted, hperm⟩ := h.leadsTo.outcome_shelfDigests h.path_ne hshelf
  have hmem (d : Digest) :
      d ∈ ds.mergeSort Digest.le ↔ ∃ name ∈ s.disk.namesIn m, NamedFor name d := by
    rw [List.mem_mergeSort, hperm.mem_iff, mem_listed_iff]
  have hholds (d : Digest) := congrArg Prod.fst (h.outcome_holds hshelf hsettling d)
  refine ⟨ds.mergeSort Digest.le, ?_, ?_, hmem, hholds, ?_, ?_⟩
  · rw [outcome_digests_of_none hlisted hsettling]
  · exact Digest.pairwise_mergeSort ds
  · rw [Digest.increasing_mergeSort_iff, hperm.nodup_iff, nodup_listed_iff h.isMap]
    simp only [digestOfName?_eq_ok_iff]
  · simp only [hmem, hholds, Option.some.injEq, Except.ok.injEq, decide_eq_true_eq]
    constructor
    · exact fun hall name hname d hd => (hall d).1 ⟨name, hname, hd⟩
    · exact fun hall d => ⟨fun ⟨name, hname, hd⟩ => hall name hname d hd,
        fun hname => ⟨fileName d, hname, namedFor_fileName d⟩⟩

/-- Beside a file of notes the file of an entry is listed, and held. -/
theorem digests_of_files_beside_notes :
    let d : Digest := ⟨List.replicate 32 0xaa, rfl⟩
    let s : Store := ⟨.folder "/entries", none, ⟨[], [(["entries"], .folder),
      (["entries", fileName d], .file []), (["entries", "notes.txt"], .file [])],
      fun _ => none⟩, 0, []⟩
    ∃ ds, (outcome digests s).1 = some (.ok ds) ∧ d ∈ ds ∧
      (outcome (holds d) s).1 = some (.ok true) := by
  intro d s
  have hfiles : HasFiles s.disk "/entries" ["entries"] :=
    ⟨⟨by decide, by decide, tidy_only.leadsTo.checkPath_eq⟩, by decide, by decide, by decide⟩
  have hname : fileName d ∈ s.disk.namesIn ["entries"] := by decide
  obtain ⟨ds, hdigests, -, hmem, hholds, -⟩ := digests_of_files hfiles rfl rfl
  refine ⟨ds, hdigests, (hmem d).2 ⟨_, hname, namedFor_fileName d⟩, ?_⟩
  rw [hholds, decide_eq_true hname]

/-- A file that is named in upper case is listed, and not held. -/
theorem listed_and_not_held :
    let d : Digest := ⟨List.replicate 32 0xaa, rfl⟩
    let s : Store := ⟨.folder "/entries", none, ⟨[], [(["entries"], .folder),
      (["entries", d.toText.toUpper ++ ".entry"], .file [])], fun _ => none⟩, 0, []⟩
    (outcome digests s).1 = some (.ok [d]) ∧ (outcome (holds d) s).1 = some (.ok false) := by
  decide +kernel

end Formulary.Store
