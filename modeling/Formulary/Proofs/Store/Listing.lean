import Formulary.Proofs.Digest.Order
import Formulary.Proofs.Disk.Names
import Formulary.Proofs.Store.Writing
import Mathlib.Data.List.TakeWhile
import Mathlib.Data.Set.Pairwise.List

/-!
# Stores that nobody disturbs

As long as nobody else touches it, a store does all it is asked for: the folder of a store is there,
has no other files of entries than this store writes, and lets it write more (`Tidy`); a store in
memory has one place for each digest. Such a store stays so (`outcome_writeToShelf`), and its
digests are those that there are bytes under (`outcome_shelfDigests`).
-/

namespace Formulary.Store

open Disk

/-! ## Names of files -/

/-- A name is split at its last point, if there is something before it. -/
theorem splitName?_eq_some_iff {name stem ending : String} :
    splitName? name = some (stem, ending) ↔
      name = stem ++ "." ++ ending ∧ stem ≠ "" ∧ '.' ∉ ending.toList := by
  constructor
  · intro h
    unfold splitName? at h
    dsimp only at h
    split at h
    case h_2 => cases h
    case h_1 front hdrop =>
      split_ifs at h with hfront
      obtain ⟨rfl, rfl⟩ := Prod.mk.inj (Option.some.inj h)
      have hjoin := List.takeWhile_append_dropWhile (p := (· ≠ '.')) (l := name.toList.reverse)
      rw [hdrop] at hjoin
      refine ⟨String.toList_inj.1 ?_, by simpa using hfront, fun hpoint => ?_⟩
      · simpa using (congrArg List.reverse hjoin).symm
      · have hpoint : '.' ∈ name.toList.reverse.takeWhile (· ≠ '.') := by simpa using hpoint
        simpa using List.mem_takeWhile_imp (p := fun c => decide (c ≠ '.')) hpoint
  · rintro ⟨rfl, hstem, hending⟩
    have hpoint : ∀ c ∈ ending.toList.reverse, decide (c ≠ '.') = true := by
      intro c hc
      rw [decide_eq_true_iff]
      rintro rfl
      exact hending (List.mem_reverse.1 hc)
    have hreverse : (stem ++ "." ++ ending).toList.reverse =
        ending.toList.reverse ++ '.' :: stem.toList.reverse := by simp
    unfold splitName?
    simp only [hreverse, List.dropWhile_append_of_pos hpoint, List.takeWhile_append_of_pos hpoint]
    simp [hstem]

theorem toText_ne_empty (d : Digest) : d.toText ≠ "" := by
  intro h
  have hsize := utf8ByteSize_fileName d
  rw [fileName, h] at hsize
  exact absurd hsize (by decide)

theorem splitName?_fileName (d : Digest) :
    splitName? (fileName d) = some (d.toText, extension) :=
  splitName?_eq_some_iff.2 ⟨rfl, toText_ne_empty d, by decide⟩

/-- A file that is named for a digest has it for its digest. -/
theorem digestOfName?_fileName (d : Digest) : digestOfName? (fileName d) = some (.ok d) := by
  rw [digestOfName?, splitName?_fileName]
  dsimp only
  rw [if_pos rfl, Digest.ofText_toText]

theorem isName_draftName : IsName draftName := by
  simp [IsName, draftName]

/-! ## The folder of a store -/

/-- The path of the store leads to the folder at `m`, where the store can write and list its files:
    there is one file for each digest whose name stands in it, named as the store does. -/
structure Tidy (disk : Disk) (path : String) (m : Location) : Prop where
  leadsTo : LeadsTo disk path m
  path_ne : path ≠ ""
  draft : ∃ l, disk.resolveNew (join (disk.absolute path) draftName) = .ok l
  trouble_eq : ∀ making, disk.trouble making = none
  isMap : disk.IsMap
  name_eq : ∀ name ∈ disk.namesIn m, ∀ d, digestOfName? name = some (.ok d) → name = fileName d
  isFile : ∀ d, disk.find? (fileIn m d) ≠ some .folder

namespace Tidy

variable {disk : Disk} {path : String} {m : Location}

/-- The bytes of the file of an entry can be read if it is there. -/
theorem fileBytes?_cases (h : Tidy disk path m) (d : Digest) :
    (disk.find? (fileIn m d) = none ∧ fileBytes? disk path d = .ok none) ∨
    ∃ b, disk.find? (fileIn m d) = some (.file b) ∧ fileBytes? disk path d = .ok (some b) := by
  rcases hnode : disk.find? (fileIn m d) with _ | b | _
  · exact .inl ⟨rfl, h.leadsTo.fileBytes?_of_missing hnode⟩
  · refine .inr ⟨b, rfl, ?_⟩
    rw [fileBytes?, h.leadsTo.read_eq, content, hnode]
  · exact absurd hnode (h.isFile d)

/-- A file that is not there yet can be written. -/
theorem writeFile_of_missing (h : Tidy disk path m) {d : Digest}
    (hd : disk.find? (fileIn m d) = none) (b : Bytes) :
    writeFile disk path d b = .ok (true, disk.put (fileIn m d) (.file b)) := by
  obtain ⟨l, hdraft⟩ := h.draft
  have hattempt (making : Making) : disk.attempt making = .ok () := by
    rw [attempt, h.trouble_eq]
  have hmade : makeDraft disk path = .ok () := by
    simp only [makeDraft, hdraft, hattempt]
    rfl
  have hkept : keepDraft disk path d = .ok (fileIn m d) := by
    rw [keepDraft, hattempt, ok_bind, h.leadsTo.resolve_eq]
  rw [writeFile, h.leadsTo.has_eq, hd, if_neg (by simp), hmade, hattempt, hkept]
  rfl

/-- A file that is there is left as it is. -/
theorem writeFile_of_present (h : Tidy disk path m) {d : Digest} {c : Bytes}
    (hd : disk.find? (fileIn m d) = some (.file c)) (b : Bytes) :
    writeFile disk path d b = .ok (false, disk) := by
  rw [writeFile, h.leadsTo.has_eq, hd]
  rfl

/-- The folder stays tidy when a file is put into it. -/
theorem put (h : Tidy disk path m) {d : Digest} (hd : disk.find? (fileIn m d) = none) (b : Bytes) :
    Tidy (disk.put (fileIn m d) (.file b)) path m := by
  have hfind (l : Location) := find?_put disk l (.file b) (fileIn_ne_nil m d)
  refine ⟨h.leadsTo.put hd b, h.path_ne, ?_, h.trouble_eq, h.isMap.put _ _,
    fun name hname e he => ?_, fun e => ?_⟩
  · obtain ⟨l, hdraft⟩ := h.draft
    exact ⟨l, resolveNew_put (fileIn_ne_nil m d) hd _ (asksFolder_join _ isName_draftName) hdraft⟩
  · rw [mem_namesIn_iff, hfind] at hname
    split_ifs at hname with heq
    · -- the name is that of the file that was put
      obtain rfl : name = fileName d := by simpa [fileIn] using heq
      rw [digestOfName?_fileName] at he
      cases he
      rfl
    · exact h.name_eq name (mem_namesIn_iff.2 hname) e he
  · rw [hfind]
    split_ifs
    · simp
    · exact h.isFile e

end Tidy

/-- A folder with nothing in it is tidy if the store can make files there. -/
theorem tidy_of_empty {disk : Disk} {path : String} {m : Location} (h : LeadsTo disk path m)
    (hpath : path ≠ "")
    (hdraft : ∃ l, disk.resolveNew (join (disk.absolute path) draftName) = .ok l)
    (htrouble : ∀ making, disk.trouble making = none) (hmap : disk.IsMap)
    (hempty : disk.namesIn m = []) : Tidy disk path m := by
  refine ⟨h, hpath, hdraft, htrouble, hmap, by simp [hempty], fun d hd => ?_⟩
  have hname : fileName d ∈ disk.namesIn m := mem_namesIn_iff.2 (by rw [← fileIn, hd]; rfl)
  simp [hempty] at hname

/-- The folder is the only thing on the disk. -/
theorem tidy_only : Tidy ⟨[], [(["entries"], .folder)], fun _ => none⟩ "/entries" ["entries"] := by
  have hpath (d : Digest) : checkPath (filePath "/entries" d) = .ok () :=
    (checkPath_filePath _ d (Digest.of [])).trans (by decide +kernel)
  exact tidy_of_empty ⟨by decide, by decide, hpath⟩ (by decide) ⟨["entries", draftName], by decide⟩
    (fun _ => rfl) (List.nodup_singleton _) (by decide)

/-! ## Listing -/

/-- The digest that a name in the folder of a store is listed as. -/
def listedAs? (path name : String) : Option Digest :=
  (digestOrSkip path name).bind Except.toOption

theorem listedAs?_eq_some_iff {path name : String} {d : Digest} :
    listedAs? path name = some d ↔ digestOfName? name = some (.ok d) := by
  rw [listedAs?, digestOrSkip]
  rcases digestOfName? name with _ | fault | e <;> simp [Except.mapError, Except.toOption]

/-- The names in a folder are listed as digests, in order, and what is skipped is logged. -/
theorem outcome_shelfDigests_of_names {s : Store} {path : String} {names : List String}
    (hshelf : s.shelf = .folder path) (hnames : fileNames s.disk path = .ok names) : ∃ log,
    outcome shelfDigests s =
      (some (.ok ((names.filterMap (listedAs? path)).mergeSort Digest.le)), { s with log }) := by
  rcases s with ⟨shelf, settling, disk, now, log⟩
  obtain rfl : shelf = .folder path := hshelf
  have hlisted : (names.filterMap (digestOrSkip path)).filterMap Except.toOption =
      names.filterMap (listedAs? path) := List.filterMap_filterMap
  have hfound (s : Store) : outcome (ExceptT.mk (pure ((fileNames disk path).map fun names =>
      names.filterMap (digestOrSkip path))) : Action _) s =
        (some (.ok (names.filterMap (digestOrSkip path))), s) := by
    rw [hnames]
    rfl
  rw [shelfDigests, outcome_bind_of_ok (outcome_get _), ← hlisted]
  dsimp only
  rw [outcome_bind_of_ok (hfound _)]
  exact ⟨_, rfl⟩

theorem checkPath_of_join {path name : String} (hpath : path ≠ "")
    (h : checkPath (join path name) = .ok ()) : checkPath path = .ok () := by
  obtain ⟨rest, hrest⟩ : ∃ rest, join path name = path ++ rest := by
    rw [join]
    split_ifs
    · exact ⟨name, rfl⟩
    · exact ⟨"/" ++ name, by rw [String.append_assoc]⟩
  rw [hrest, checkPath] at h
  rw [checkPath, if_neg hpath]
  split_ifs at h with hempty hzero hlong
  simp only [String.toList_append, List.contains_append, Bool.or_eq_true, not_or,
    String.utf8ByteSize_append] at hzero hlong
  rw [if_neg hzero.1, if_neg (by omega)]

section

variable {disk : Disk} {path : String} {m : Location}

theorem LeadsTo.folder_eq (h : LeadsTo disk path m) (hpath : path ≠ "") :
    disk.folder path = .ok m := by
  have hcheck := checkPath_of_join hpath (h.checkPath_eq (Digest.of []))
  have hresolve : disk.resolve path = .ok m := by
    rw [resolve, hcheck]
    simp only [bind, Except.bind, h.walk_eq, h.isFolder]
  rw [folder, if_neg hpath, hresolve]
  simp only [bind, Except.bind, h.isFolder]

/-- No digest is listed twice if no two names in the folder are read as the same one. -/
theorem nodup_listed_iff (hmap : disk.IsMap) :
    ((disk.namesIn m).filterMap (listedAs? path)).Nodup ↔
      ∀ name ∈ disk.namesIn m, ∀ other ∈ disk.namesIn m, ∀ d,
        digestOfName? name = some (.ok d) → digestOfName? other = some (.ok d) → name = other := by
  let apart (name other : String) : Prop :=
    ∀ d ∈ listedAs? path name, ∀ e ∈ listedAs? path other, d ≠ e
  have hsymm : Std.Symm apart := ⟨fun _ _ h d hd e he heq => h e he d hd heq.symm⟩
  have hnodup : ((disk.namesIn m).filterMap (listedAs? path)).Nodup ↔
      (disk.namesIn m).Pairwise apart := List.pairwise_filterMap
  rw [hnodup, ← List.Nodup.pairwise_coe (nodup_namesIn hmap m)]
  constructor
  · intro h name hname other hother d hd he
    by_contra hne
    exact h hname hother hne d (listedAs?_eq_some_iff.2 hd) d (listedAs?_eq_some_iff.2 he) rfl
  · rintro h name hname other hother hne d hd _ he rfl
    exact hne (h name hname other hother d (listedAs?_eq_some_iff.1 hd)
      (listedAs?_eq_some_iff.1 he))

end

namespace Tidy

variable {disk : Disk} {path : String} {m : Location}

theorem mem_listed_iff (h : Tidy disk path m) {d : Digest} :
    d ∈ (disk.namesIn m).filterMap (listedAs? path) ↔ (disk.find? (fileIn m d)).isSome := by
  rw [List.mem_filterMap, fileIn, ← mem_namesIn_iff]
  constructor
  · rintro ⟨name, hname, hd⟩
    rwa [← h.name_eq name hname d (listedAs?_eq_some_iff.1 hd)]
  · exact fun hname => ⟨_, hname, listedAs?_eq_some_iff.2 (digestOfName?_fileName d)⟩

/-- No digest is listed twice, for there is one name for it. -/
theorem nodup_listed (h : Tidy disk path m) :
    ((disk.namesIn m).filterMap (listedAs? path)).Nodup :=
  (nodup_listed_iff h.isMap).2 fun name hname other hother d hd he =>
    (h.name_eq name hname d hd).trans (h.name_eq other hother d he).symm

end Tidy

/-- The digests that the names in the folder of a store are read as are listed in order. -/
theorem LeadsTo.outcome_shelfDigests {s : Store} {path : String} {m : Location}
    (h : LeadsTo s.disk path m) (hpath : path ≠ "") (hshelf : s.shelf = .folder path) :
    ∃ (ds : List Digest) (log : List Event),
      outcome shelfDigests s = (some (.ok (ds.mergeSort Digest.le)), { s with log }) ∧
        ds.Perm ((s.disk.namesIn m).filterMap (listedAs? path)) := by
  have hnames : fileNames s.disk path = .ok ((s.disk.namesIn m).mergeSort (· ≤ ·)) := by
    rw [fileNames, if_neg hpath, h.folder_eq hpath]
  obtain ⟨log, hlisted⟩ := outcome_shelfDigests_of_names hshelf hnames
  exact ⟨_, log, hlisted, (List.mergeSort_perm _ _).filterMap _⟩

/-! ## Undisturbed stores -/

/-- Nobody else touches the store: in memory each digest stands once, a folder is tidy. -/
inductive Undisturbed (s : Store) : Prop
  | memory {entries : List (Digest × Bytes)} (hshelf : s.shelf = .memory entries)
      (hnodup : (entries.map Prod.fst).Nodup)
  | folder {path : String} {m : Location} (hshelf : s.shelf = .folder path)
      (htidy : Tidy s.disk path m)

namespace Undisturbed

variable {s t : Store}

/-- Neither the time nor what settles have to do with it. -/
theorem of_eq (hs : s.Undisturbed) (hshelf : t.shelf = s.shelf) (hdisk : t.disk = s.disk) :
    t.Undisturbed := by
  cases hs with
  | memory h hnodup => exact .memory (hshelf.trans h) hnodup
  | folder h htidy => exact .folder (hshelf.trans h) (hdisk ▸ htidy)

theorem of_passes (hs : s.Undisturbed) (h : Passes s t) : t.Undisturbed :=
  hs.of_eq h.shelf_eq h.disk_eq

/-- Whether there are bytes under a digest can always be told. -/
theorem exists_bytes?_eq (hs : s.Undisturbed) (d : Digest) : ∃ found, s.bytes? d = .ok found := by
  cases hs with
  | memory hshelf => exact ⟨_, bytes?_of_memory hshelf d⟩
  | folder hshelf htidy =>
    rw [bytes?_of_folder hshelf]
    rcases htidy.fileBytes?_cases d with ⟨-, h⟩ | ⟨b, -, h⟩
    · exact ⟨none, h⟩
    · exact ⟨some b, h⟩

/-- Each digest still stands once when an entry is added that was not there. -/
theorem nodup_append_entry {entries : List (Digest × Bytes)} {d : Digest}
    (hnodup : (entries.map Prod.fst).Nodup) (hfree : entries.lookup d = none) (b : Bytes) :
    ((entries ++ [(d, b)]).map Prod.fst).Nodup := by
  rw [List.map_append, List.nodup_append]
  refine ⟨hnodup, by simp, fun e he f hf => ?_⟩
  obtain rfl : f = d := by simpa using hf
  rintro rfl
  obtain ⟨entry, hentry, rfl⟩ := List.mem_map.1 he
  have hthere : (entries.lookup entry.1).isSome :=
    List.lookup_isSome_iff.2 ⟨entry, hentry, beq_self_eq_true _⟩
  simp [hfree] at hthere

/-- What is to be written is written unless there is something in its place. -/
theorem outcome_writeToShelf (hs : s.Undisturbed) (d : Digest) (b : Bytes) :
    (s.bytes? d ≠ .ok none ∧ outcome (writeToShelf d b) s = (some (.ok false), s)) ∨
    s.bytes? d = .ok none ∧ ∃ shelf disk,
      outcome (writeToShelf d b) s = (some (.ok true), { s with shelf, disk }) ∧
      Undisturbed { s with shelf, disk } ∧
      ∀ e, bytes? { s with shelf, disk } e = if e = d then .ok (some b) else s.bytes? e := by
  cases hs with
  | @memory entries hshelf hnodup =>
    rw [outcome_writeToShelf_of_memory hshelf, bytes?_of_memory hshelf]
    split_ifs with hd
    · exact .inl ⟨by simpa using Option.isSome_iff_ne_none.1 hd, rfl⟩
    · have hfree : entries.lookup d = none := Option.not_isSome_iff_eq_none.1 hd
      exact .inr ⟨congrArg Except.ok hfree, .memory (entries ++ [(d, b)]), s.disk, rfl,
        .memory rfl (nodup_append_entry hnodup hfree b), bytes?_append hshelf hfree b⟩
  | @folder path m hshelf htidy =>
    rw [outcome_writeToShelf_of_folder hshelf, bytes?_of_folder hshelf]
    rcases htidy.fileBytes?_cases d with ⟨hfree, hbytes⟩ | ⟨c, hc, hbytes⟩
    · rw [htidy.writeFile_of_missing hfree]
      refine .inr ⟨hbytes, s.shelf, s.disk.put (fileIn m d) (.file b), rfl,
        .folder hshelf (htidy.put hfree b), fun e => ?_⟩
      have hstays : { s with disk := s.disk.put (fileIn m d) (.file b) }.shelf = .folder path :=
        hshelf
      rw [bytes?_of_folder hstays, bytes?_of_folder hshelf, htidy.leadsTo.fileBytes?_put hfree b]
    · rw [htidy.writeFile_of_present hc]
      exact .inl ⟨by simp [hbytes], rfl⟩

/-- The digests that are listed are those that there are bytes under. -/
theorem outcome_shelfDigests (hs : s.Undisturbed) : ∃ ds log,
    outcome shelfDigests s = (some (.ok ds), { s with log }) ∧ Digest.Increasing ds ∧
      ∀ d, d ∈ ds ↔ s.bytes? d ≠ .ok none := by
  cases hs with
  | @memory entries hshelf hnodup =>
    rcases s with ⟨shelf, settling, disk, now, log⟩
    obtain rfl : shelf = .memory entries := hshelf
    refine ⟨(entries.map Prod.fst).mergeSort Digest.le, log, rfl,
      Digest.increasing_mergeSort hnodup, fun d => ?_⟩
    have hlookup : d ∈ entries.map Prod.fst ↔ (entries.lookup d).isSome := by
      rw [List.lookup_isSome_iff]
      simp
    rw [List.mem_mergeSort, hlookup]
    simp [bytes?, Option.isSome_iff_ne_none]
  | @folder path m hshelf htidy =>
    obtain ⟨ds, log, hlisted, hperm⟩ :=
      htidy.leadsTo.outcome_shelfDigests htidy.path_ne hshelf
    refine ⟨_, log, hlisted, Digest.increasing_mergeSort (hperm.nodup_iff.2 htidy.nodup_listed),
      fun d => ?_⟩
    rw [List.mem_mergeSort, hperm.mem_iff, htidy.mem_listed_iff, bytes?_of_folder hshelf]
    rcases htidy.fileBytes?_cases d with ⟨hfree, hbytes⟩ | ⟨b, hb, hbytes⟩
    · simp [hfree, hbytes]
    · simp [hb, hbytes]

end Undisturbed

end Formulary.Store
