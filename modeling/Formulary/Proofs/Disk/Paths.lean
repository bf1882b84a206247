import Formulary.Disk
import Formulary.Proofs.Outcome
import Mathlib.Data.List.SplitBy
import Mathlib.Tactic.SplitIfs

/-!
# Files in a folder

A path with a name added to it leads to what has this name in the folder that the path leads to
(`parts_join`, `startOf_join`). Putting something where nothing was does not turn a walk that found
its way (`walk_put`). Folders that are there are not made again (`run_makeFolders_of_walk`).
-/

namespace Formulary.Disk

/-- A name that may be added to a path: not empty, and without a slash. -/
def IsName (name : String) : Prop :=
  name.toList ≠ [] ∧ ∀ c ∈ name.toList, c ≠ '/'

/-! ## Paths with a name added -/

/-- The test for characters that belong to the same part of a path. -/
def samePart (c d : Char) : Bool :=
  c ≠ '/' && d ≠ '/'

theorem parts_eq (path : String) :
    parts path = ((path.toList.splitBy samePart).filter (· ≠ ['/'])).map String.ofList :=
  rfl

/-- A name has no slash in it, so it is one part. -/
theorem splitBy_name {name : String} (h : IsName name) :
    name.toList.splitBy samePart = [name.toList] := by
  refine List.splitBy_of_isChain h.1 ?_
  refine List.Pairwise.isChain (List.pairwise_of_forall_mem_list fun c hc d hd => ?_)
  simp [samePart, h.2 c hc, h.2 d hd]

theorem parts_of_isName {name : String} (h : IsName name) : parts name = [name] := by
  have hne : name.toList ≠ ['/'] := by
    intro heq
    exact h.2 '/' (heq ▸ List.mem_cons_self) rfl
  rw [parts_eq, splitBy_name h, List.filter_cons_of_pos (by simpa using hne)]
  simp

/-- Two texts are split each on its own where no part goes across. -/
theorem parts_append {s t : String}
    (h : ∀ c ∈ s.toList.getLast?, ∀ d ∈ t.toList.head?, samePart c d = false) :
    parts (s ++ t) = parts s ++ parts t := by
  rw [parts_eq, String.toList_append, List.splitBy_append h, List.filter_append, List.map_append]
  rfl

/-- A path that ends in a slash can be gone on with. -/
theorem parts_append_of_asksFolder {path : String} (h : asksFolder path) (t : String) :
    parts (path ++ t) = parts path ++ parts t := by
  have hlast : path.toList.getLast? = some '/' := by simpa [asksFolder] using h
  refine parts_append fun c hc d _ => ?_
  rw [hlast] at hc
  obtain rfl := Option.some.inj hc
  rfl

theorem asksFolder_append_slash (path : String) : asksFolder (path ++ "/") := by
  simp [asksFolder]

theorem parts_append_slash (path : String) : parts (path ++ "/") = parts path := by
  have hslash : parts "/" = [] := by decide
  have hapart : parts (path ++ "/") = parts path ++ parts "/" := by
    refine parts_append fun c _ d hd => ?_
    obtain rfl : '/' = d := Option.some.inj hd
    simp [samePart]
  rw [hapart, hslash, List.append_nil]

/-- The name comes last in the path of a file in a folder. -/
theorem parts_join (path : String) {name : String} (h : IsName name) :
    parts (join path name) = parts path ++ [name] := by
  rw [join]
  split_ifs with hjoin
  · rcases hjoin with rfl | hasks
    · rw [String.empty_append, parts_of_isName h]
      rfl
    · rw [parts_append_of_asksFolder hasks, parts_of_isName h]
  · rw [parts_append_of_asksFolder (asksFolder_append_slash path), parts_append_slash,
      parts_of_isName h]

/-- The same goes in front of every name that is added to a path. -/
theorem exists_join_eq (path : String) :
    ∃ front : String, ∀ name, join path name = front ++ name := by
  unfold join
  split_ifs
  · exact ⟨path, fun _ => rfl⟩
  · exact ⟨path ++ "/", fun _ => rfl⟩

theorem asksFolder_join (path : String) {name : String} (h : IsName name) :
    asksFolder (join path name) = false := by
  have hlast : name.toList.getLast? ≠ some '/' := fun heq => h.2 '/' (List.mem_of_getLast? heq) rfl
  obtain ⟨front, hfront⟩ := exists_join_eq path
  rw [hfront, asksFolder, String.toList_append, List.getLast?_append_of_ne_nil _ h.1]
  simpa using hlast

/-- A path with a name added starts from where the path does. -/
theorem startOf_join (disk : Disk) (path : String) {name : String} (h : IsName name) :
    disk.startOf (join path name) = disk.startOf path := by
  have hname : name.toList.head? ≠ some '/' := fun heq => h.2 '/' (List.mem_of_head? heq) rfl
  have hhead : (join path name).toList.head? = some '/' ↔ path.toList.head? = some '/' := by
    by_cases hempty : path = ""
    · subst hempty
      simpa [join] using hname
    · obtain ⟨c, cs, hcs⟩ := List.exists_cons_of_ne_nil (mt String.toList_eq_nil_iff.1 hempty)
      rw [join]
      split_ifs <;> simp [hcs]
  simp only [startOf, hhead]

/-! ## Walks -/

/-- Something put where nothing was does not turn a walk that found its way. -/
theorem walk_put {disk : Disk} {l : Location} (hl : l ≠ []) (hfree : disk.find? l = none) (n : Node)
    {start m : Location} {names : List String} (h : disk.walk start names = .ok m) :
    (disk.put l n).walk start names = .ok m := by
  induction names generalizing start with
  | nil => exact h
  | cons name names ih =>
    rw [walk] at h ⊢
    -- the walk goes through `start`, so something is there and it is not the free place
    have hne : start ≠ l := by
      rintro rfl
      rw [hfree] at h
      cases h
    rw [find?_put _ _ _ hl, if_neg hne]
    split at h
    · cases h
    · cases h
    · split_ifs at h ⊢ <;> exact ih h

/-- A path that can be given to a new file still can when something else was put somewhere. -/
theorem resolveNew_put {disk : Disk} {l : Location} (hl : l ≠ []) (hfree : disk.find? l = none)
    (n : Node) {path : String} {m : Location} (hasks : asksFolder path = false)
    (h : disk.resolveNew path = .ok m) : (disk.put l n).resolveNew path = .ok m := by
  simp only [resolveNew, hasks, Bool.false_eq_true, if_false] at h ⊢
  obtain ⟨hcheck, hwalk⟩ := check_bind_eq_ok_iff.1 h
  exact check_bind_eq_ok_iff.2 ⟨hcheck, walk_put hl hfree n hwalk⟩

/-- A name is looked for in the folder that the walk has come to. -/
theorem walk_name (disk : Disk) (m : Location) {name : String} (hdot : name ≠ ".")
    (hup : name ≠ "..") (hlength : name.utf8ByteSize ≤ greatestName) :
    disk.walk m [name] =
      match disk.find? m with
      | none => .error .missing
      | some (.file _) => .error .notAFolder
      | some .folder => .ok (m ++ [name]) := by
  rw [walk, if_neg hdot, if_neg hup, if_neg (Nat.not_lt.2 hlength)]
  cases disk.find? m with
  | none => rfl
  | some node => cases node <;> rfl

/-! ## Folders that are there -/

variable {disk : Disk} {l m : Location} {names : List String}

/-- A folder that is there is in the way of another. -/
theorem makeFolder_of_walk (hwalk : disk.walk l names = .ok m) (hm : disk.find? m = some .folder) :
    disk.makeFolder l names = .error .taken := by
  rw [makeFolder, hwalk]
  simp only [bind, Except.bind, hm]

theorem hasFolder_of_walk (hwalk : disk.walk l names = .ok m) (hm : disk.find? m = some .folder) :
    disk.hasFolder l names = true := by
  rw [hasFolder, hwalk]
  simp [hm]

theorem run_get_bind {α : Type} (f : Disk → Action α) (disk : Disk) :
    (get >>= f).run.run disk = (f disk).run.run disk := rfl

theorem run_ensureFolder_of_walk (hwalk : disk.walk l names = .ok m)
    (hm : disk.find? m = some .folder) : (ensureFolder l names).run.run disk = (.ok (), disk) := by
  rw [ensureFolder, run_get_bind, makeFolder_of_walk hwalk hm]
  simp only [hasFolder_of_walk hwalk hm]
  rfl

/-- Nothing is made where there is a folder, whatever is around it. -/
theorem run_ensureFolders_of_walk (hwalk : disk.walk l names = .ok m)
    (hm : disk.find? m = some .folder) (outer : List (List String)) :
    (ensureFolders l (names :: outer)).run.run disk = (.ok (), disk) := by
  rw [ensureFolders, run_get_bind, makeFolder_of_walk hwalk hm]
  exact run_ensureFolder_of_walk hwalk hm

/-- If the last folder is there, nothing is made. -/
theorem run_makeFolders_of_walk {path : String} (hcheck : checkPath path = .ok ())
    (hwalk : disk.walk (disk.startOf path) (parts path) = .ok m)
    (hm : disk.find? m = some .folder) :
    (makeFolders path).run.run disk = (.ok (), disk) := by
  have hne : path ≠ "" := by
    rintro rfl
    cases hcheck
  rw [makeFolders, if_pos hne, hcheck]
  exact run_ensureFolders_of_walk hwalk hm _

end Formulary.Disk
