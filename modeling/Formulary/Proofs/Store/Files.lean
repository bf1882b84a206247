import Formulary.Proofs.Disk.Paths
import Formulary.Proofs.Outcome
import Formulary.Proofs.Text.Utf8
import Formulary.Store

/-!
# Files of entries

In the folder of a store the file of an entry has the digest for its name, so different entries have
different files, and whether a path leads to them does not depend on which entry is meant
(`exists_leadsTo`). A file that is written is read under its digest from then on, and nothing
changes under any other digest (`writeFile_cases`).
-/

namespace Formulary.Store

open Disk

/-! ## Names -/

theorem toList_fileName (d : Digest) :
    (fileName d).toList = d.bytes.flatMap Text.Hex.encodeByte ++ ".entry".toList := by
  rw [fileName, String.toList_append, String.toList_append, Digest.toText, Text.Hex.encode,
    String.toList_ofList, List.append_assoc]
  rfl

/-- What holds of the sixteen digits and of the ending holds of all characters of a name. -/
theorem forall_mem_fileName {p : Char → Prop}
    (hdigits : ∀ n : Fin 16, p (Text.Hex.digit (UInt8.ofNat n)))
    (hending : p '.' ∧ p 'e' ∧ p 'n' ∧ p 't' ∧ p 'r' ∧ p 'y') (d : Digest) :
    ∀ c ∈ (fileName d).toList, p c := by
  rw [toList_fileName, List.forall_mem_append]
  constructor
  · intro c hc
    obtain ⟨b, -, hc⟩ := List.mem_flatMap.1 hc
    exact Text.Hex.forall_mem_encodeByte hdigits b c hc
  · rw [show ".entry".toList = ['.', 'e', 'n', 't', 'r', 'y'] by decide]
    simpa only [List.forall_mem_cons, List.not_mem_nil, false_imp_iff, implies_true, and_true]
      using hending

theorem isName_fileName (d : Digest) : IsName (fileName d) := by
  constructor
  · rw [toList_fileName]
    exact List.append_ne_nil_of_right_ne_nil _ (by decide)
  · exact forall_mem_fileName (by decide) (by decide) d

theorem fileName_injective {d e : Digest} (h : fileName d = fileName e) : d = e := by
  have htext : d.toText.toList = e.toText.toList := by
    simpa [fileName] using congrArg String.toList h
  exact Digest.toText_injective (String.toList_inj.1 htext)

/-- Two digits a byte, a point and the ending. -/
theorem utf8ByteSize_fileName (d : Digest) : (fileName d).utf8ByteSize = 70 := by
  have htext : d.toText.utf8ByteSize = 64 := by
    have hbytes : d.toText.utf8ByteSize = (Bytes.ofText d.toText).length := by simp [Bytes.ofText]
    rw [hbytes, Digest.toText, Text.Hex.ofText_encode, List.length_flatMap]
    simp [Text.Hex.encodeByte, d.length_eq]
  rw [fileName, String.utf8ByteSize_append, String.utf8ByteSize_append, htext]
  decide

/-- What a path must be like does not depend on the entry whose file it leads to. -/
theorem checkPath_filePath (path : String) (d e : Digest) :
    checkPath (filePath path d) = checkPath (filePath path e) := by
  have hempty (front : String) (d : Digest) : front ++ fileName d ≠ "" := by
    intro h
    have hlist := congrArg String.toList h
    rw [String.toList_append] at hlist
    exact (isName_fileName d).1 (List.append_eq_nil_iff.1 hlist).2
  have hzero (d : Digest) : (fileName d).toList.contains '\x00' = false := by
    have hall := forall_mem_fileName (p := (· ≠ '\x00')) (by decide) (by decide) d
    simpa using hall '\x00'
  obtain ⟨front, hfront⟩ := exists_join_eq path
  simp only [filePath, checkPath, hfront, hempty, if_false, String.toList_append,
    List.contains_append, hzero, Bool.or_false, String.utf8ByteSize_append, utf8ByteSize_fileName]

/-! ## The folder of a store -/

/-- The path of the store leads to the folder at `m`, and paths into it are not too long. -/
structure LeadsTo (disk : Disk) (path : String) (m : Location) : Prop where
  walk_eq : disk.walk (disk.startOf path) (parts path) = .ok m
  isFolder : disk.find? m = some .folder
  checkPath_eq : ∀ d, checkPath (filePath path d) = .ok ()

/-- The file of an entry in the folder at `m`. -/
def fileIn (m : Location) (d : Digest) : Location :=
  m ++ [fileName d]

theorem fileIn_ne_nil (m : Location) (d : Digest) : fileIn m d ≠ [] := by
  simp [fileIn]

theorem fileIn_injective {m : Location} {d e : Digest} (h : fileIn m d = fileIn m e) : d = e := by
  refine fileName_injective ?_
  simpa [fileIn] using h

theorem resolve_filePath (disk : Disk) (path : String) (d : Digest) :
    disk.resolve (filePath path d) = (do
      checkPath (filePath path d)
      let m ← disk.walk (disk.startOf path) (parts path)
      match disk.find? m with
      | none => .error .missing
      | some (.file _) => .error .notAFolder
      | some .folder => .ok (fileIn m d)) := by
  -- the name is none of the two that lead elsewhere, by its length
  have hsize (name : String) (h : name.utf8ByteSize ≠ 70) : fileName d ≠ name :=
    fun heq => h (heq ▸ utf8ByteSize_fileName d)
  have hname (m : Location) := disk.walk_name m (hsize "." (by decide)) (hsize ".." (by decide))
    (utf8ByteSize_fileName d ▸ by decide)
  have hasks : asksFolder (filePath path d) = false := asksFolder_join path (isName_fileName d)
  have hwalk : disk.walk (disk.startOf (filePath path d)) (parts (filePath path d)) =
      (disk.walk (disk.startOf path) (parts path)).bind fun m => disk.walk m [fileName d] := by
    rw [filePath, startOf_join _ _ (isName_fileName d), parts_join _ (isName_fileName d),
      walk_append]
  rw [resolve, hwalk]
  rcases checkPath (filePath path d) with fault | _
  · rfl
  rcases disk.walk (disk.startOf path) (parts path) with fault | m
  · rfl
  simp only [bind, Except.bind, hname, hasks]
  rcases disk.find? m with _ | content | _
  · rfl
  · rfl
  · -- what stands at the end does not matter, for the path asks for no folder
    simp only [Bool.false_eq_true, if_false]
    split <;> rfl

namespace LeadsTo

variable {disk : Disk} {path : String} {m : Location}

theorem resolve_eq (h : LeadsTo disk path m) (d : Digest) :
    disk.resolve (filePath path d) = .ok (fileIn m d) := by
  rw [resolve_filePath, h.checkPath_eq, h.walk_eq]
  simp only [bind, Except.bind, h.isFolder]

theorem read_eq (h : LeadsTo disk path m) (d : Digest) :
    disk.read (filePath path d) = disk.content (fileIn m d) := by
  rw [Disk.read, h.resolve_eq]
  rfl

theorem has_eq (h : LeadsTo disk path m) (d : Digest) :
    disk.has (filePath path d) = (disk.find? (fileIn m d)).isSome := by
  rw [has, h.resolve_eq]

/-- Where nothing stands there are no bytes. -/
theorem fileBytes?_of_missing (h : LeadsTo disk path m) {d : Digest}
    (hd : disk.find? (fileIn m d) = none) : fileBytes? disk path d = .ok none := by
  rw [fileBytes?, h.read_eq, content, hd]

/-- Where something stands there are its bytes, or none that can be read. -/
theorem fileBytes?_ne_none (h : LeadsTo disk path m) {d : Digest}
    (hd : (disk.find? (fileIn m d)).isSome) : fileBytes? disk path d ≠ .ok none := by
  obtain ⟨node, hnode⟩ := Option.isSome_iff_exists.1 hd
  rw [fileBytes?, h.read_eq, content, hnode]
  cases node <;> simp

/-- The folder stays where it is when a file is put into it. -/
theorem put (h : LeadsTo disk path m) {d : Digest} (hd : disk.find? (fileIn m d) = none)
    (b : Bytes) : LeadsTo (disk.put (fileIn m d) (.file b)) path m := by
  refine ⟨walk_put (fileIn_ne_nil m d) hd _ h.walk_eq, ?_, h.checkPath_eq⟩
  rw [find?_put _ _ _ (fileIn_ne_nil m d), if_neg, h.isFolder]
  simp [fileIn]

theorem fileBytes?_put (h : LeadsTo disk path m) {d : Digest}
    (hd : disk.find? (fileIn m d) = none) (b : Bytes) (e : Digest) :
    fileBytes? (disk.put (fileIn m d) (.file b)) path e =
      if e = d then .ok (some b) else fileBytes? disk path e := by
  rw [fileBytes?, (h.put hd b).read_eq, content, find?_put _ _ _ (fileIn_ne_nil m d)]
  by_cases he : e = d
  · rw [if_pos (congrArg _ he), if_pos he]
  · rw [if_neg (mt fileIn_injective he), if_neg he, fileBytes?, h.read_eq, content]

end LeadsTo

/-- If the path of one file is found, that of every other one is. -/
theorem exists_leadsTo {disk : Disk} {path : String} {d : Digest} {l : Location}
    (h : disk.resolve (filePath path d) = .ok l) : ∃ m, LeadsTo disk path m ∧ l = fileIn m d := by
  rw [resolve_filePath, check_bind_eq_ok_iff, bind_eq_ok_iff] at h
  obtain ⟨hcheck, m, hwalk, h⟩ := h
  rcases hfolder : disk.find? m with _ | content | _ <;> simp only [hfolder] at h
  · cases h
  · cases h
  · obtain rfl := Except.ok.inj h
    exact ⟨m, ⟨hwalk, hfolder, fun e => (checkPath_filePath path e d).trans hcheck⟩, rfl⟩

/-! ## Writing -/

/-- A step of making a file is taken, or it fails for a reason that has nothing to do with paths. -/
theorem attempt_cases (disk : Disk) (making : Making) :
    disk.attempt making = .ok () ∨ ∃ text, disk.attempt making = .error (.other text) := by
  unfold attempt
  rcases disk.trouble making with _ | text
  · exact .inl rfl
  · exact .inr ⟨text, rfl⟩

/-- A draft goes to where the path of the entry leads, or it cannot be moved there. That the name is
    taken is the reason only if something stands there. -/
theorem keepDraft_cases (disk : Disk) (path : String) (d : Digest) :
    (∃ l, keepDraft disk path d = .ok l ∧ disk.resolve (filePath path d) = .ok l) ∨
    ∃ fault, keepDraft disk path d = .error fault ∧
      (fault = .taken → fileBytes? disk path d ≠ .ok none) := by
  rcases attempt_cases disk .keep with hkeep | ⟨text, hkeep⟩
  · rcases hresolve : disk.resolve (filePath path d) with fault | l
    · refine .inr ⟨fault, by rw [keepDraft, hkeep, ok_bind, hresolve], ?_⟩
      rintro rfl
      simp [fileBytes?, Disk.read, hresolve, error_bind]
    · exact .inl ⟨l, by rw [keepDraft, hkeep, ok_bind, hresolve], rfl⟩
  · exact .inr ⟨.other text, by rw [keepDraft, hkeep, error_bind], nofun⟩

/-- What becomes of a file that is to be written: it cannot be, or there is something in its place,
    or its bytes are there afterwards and all others stay. -/
theorem writeFile_cases (disk : Disk) (path : String) (d : Digest) (b : Bytes) :
    (∃ error, writeFile disk path d b = .error error) ∨
    (writeFile disk path d b = .ok (false, disk) ∧ fileBytes? disk path d ≠ .ok none) ∨
    ∃ written, writeFile disk path d b = .ok (true, written) ∧
      fileBytes? disk path d = .ok none ∧
      ∀ e, fileBytes? written path e = if e = d then .ok (some b) else fileBytes? disk path e := by
  rw [writeFile]
  split_ifs with hhas
  · -- something is at the end of the path
    rw [has] at hhas
    rcases hresolve : disk.resolve (filePath path d) with fault | l <;> rw [hresolve] at hhas
    · cases hhas
    · obtain ⟨m, hm, rfl⟩ := exists_leadsTo hresolve
      exact .inr (.inl ⟨rfl, hm.fileBytes?_ne_none hhas⟩)
  · -- the draft is made first, where it may be, and then moved into its place
    rcases makeDraft disk path with error | _
    · exact .inl ⟨error, rfl⟩
    rcases attempt_cases disk .sync with hsync | ⟨text, hsync⟩ <;> rw [hsync]
    · rcases keepDraft_cases disk path d with ⟨l, hkeep, hresolve⟩ | ⟨fault, hkeep, htaken⟩ <;>
        rw [hkeep]
      · obtain ⟨m, hm, rfl⟩ := exists_leadsTo hresolve
        have hfree : disk.find? (fileIn m d) = none := by simpa [hm.has_eq] using hhas
        exact .inr (.inr ⟨_, rfl, hm.fileBytes?_of_missing hfree, hm.fileBytes?_put hfree b⟩)
      · by_cases h : fault = .taken
        · subst h
          exact .inr (.inl ⟨rfl, htaken rfl⟩)
        · refine .inl ⟨.disk (.keeping (filePath path d) fault), ?_⟩
          rw [ok_bind]
          cases fault <;> first | rfl | exact absurd rfl h
    · exact .inl ⟨_, rfl⟩

end Formulary.Store
