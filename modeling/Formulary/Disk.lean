import Formulary.Bytes

/-!
# Disks

The files and folders that a store, its settings and a transcript live in. A disk is a finite map
from locations to nodes, together with the folder that relative paths start from. A path is a text;
what it leads to is found by walking over the disk, so that a path through something that is
missing, or through a file, is told from one that leads to nothing.

* `find?_put`: a node that is put somewhere is found there, and all others stay;
* `walk_append`: a walk goes on from where its first part ends.
-/

namespace Formulary

/-- Where a file or a folder is: the names on the way to it from the root. -/
abbrev Location := List String

/-- What stands at a location. -/
inductive Disk.Node
  | file (content : Bytes)
  | folder
  deriving DecidableEq

/-- Why something cannot be done on a disk. -/
inductive Disk.Fault
  | missing
  | notAFolder
  | aFolder
  | taken
  | nameTooLong
  | zeroInPath
  | notText
  /-- Anything else, in the words of the system. -/
  | other (text : String)
  deriving DecidableEq

/-- The steps in which a file is made that is there as a whole or not at all: a new file is made
    under another name, filled, brought to the disk and given the name that it is for. -/
inductive Disk.Making
  | draft
  | fill
  | sync
  | keep
  deriving DecidableEq

/-- Files and folders. The root is always there. -/
structure Disk where
  /-- The folder that relative paths start from. -/
  here : Location
  nodes : List (Location × Disk.Node)
  /-- What the system says if a step of making a file goes wrong whatever its path, such as on a
      disk that is full. -/
  trouble : Disk.Making → Option String

namespace Disk

/-- The disk with nothing on it, on which nothing goes wrong. -/
def empty : Disk := ⟨[], [], fun _ => none⟩

/-- What is said of a fault. -/
def Fault.message : Fault → String
  | missing => "No such file or directory (os error 2)"
  | notAFolder => "Not a directory (os error 20)"
  | aFolder => "Is a directory (os error 21)"
  | taken => "File exists (os error 17)"
  | nameTooLong => "File name too long (os error 36)"
  | zeroInPath => "file name contained an unexpected NUL byte"
  | notText => "stream did not contain valid UTF-8"
  | other text => text

/-! ## Nodes -/

/-- What stands at a location. -/
def find? (disk : Disk) (l : Location) : Option Node :=
  if l = [] then some .folder else disk.nodes.lookup l

/-- The disk with a node at a location, in place of what stood there. -/
def put (disk : Disk) (l : Location) (n : Node) : Disk :=
  { disk with nodes := disk.nodes.filter (·.1 ≠ l) ++ [(l, n)] }

/-- The disk without what stands at a location or below it. -/
def remove (disk : Disk) (l : Location) : Disk :=
  { disk with nodes := disk.nodes.filter fun node => !l.isPrefixOf node.1 }

/-- The names of what stands directly in a folder. -/
def namesIn (disk : Disk) (l : Location) : List String :=
  disk.nodes.filterMap fun node => if node.1.dropLast = l then node.1.getLast? else none

theorem lookup_filter_ne {α β : Type} [BEq α] [LawfulBEq α] [DecidableEq α] {l m : α}
    (nodes : List (α × β)) (h : m ≠ l) :
    (nodes.filter (·.1 ≠ l)).lookup m = nodes.lookup m := by
  induction nodes with
  | nil => rfl
  | cons node rest ih =>
    by_cases hk : node.1 = l
    · have hm : (m == node.1) = false := by simpa [hk] using h
      rw [List.filter_cons_of_neg (by simpa using hk), ih, List.lookup_cons, hm]
    · rw [List.filter_cons_of_pos (by simpa using hk), List.lookup_cons, List.lookup_cons, ih]

theorem lookup_filter_self {α β : Type} [BEq α] [LawfulBEq α] [DecidableEq α] {l : α}
    (nodes : List (α × β)) :
    (nodes.filter (·.1 ≠ l)).lookup l = none := by
  induction nodes with
  | nil => rfl
  | cons node rest ih =>
    by_cases hk : node.1 = l
    · rw [List.filter_cons_of_neg (by simpa using hk), ih]
    · have hl : (l == node.1) = false := by simpa using fun e : l = node.1 => hk e.symm
      rw [List.filter_cons_of_pos (by simpa using hk), List.lookup_cons, hl, ih]

/-- A node that is put somewhere is found there, and all others stay. -/
theorem find?_put (disk : Disk) {l : Location} (m : Location) (n : Node) (hl : l ≠ []) :
    (disk.put l n).find? m = if m = l then some n else disk.find? m := by
  unfold find? put
  by_cases hm : m = l
  · subst hm
    rw [if_neg hl, if_pos rfl, List.lookup_append, lookup_filter_self]
    simp
  · have hm' : (m == l) = false := by simpa using hm
    rw [if_neg hm, List.lookup_append, lookup_filter_ne _ hm]
    simp [List.lookup_cons, hm']

/-! ## Paths -/

/-- The names that a path is made of. -/
def parts (path : String) : List String :=
  ((path.toList.splitBy fun c d => c ≠ '/' && d ≠ '/').filter (· ≠ ['/'])).map String.ofList

/-- Where the walk along a path starts. -/
def startOf (disk : Disk) (path : String) : Location :=
  if path.toList.head? = some '/' then [] else disk.here

/-- Whether a path asks for a folder. -/
def asksFolder (path : String) : Bool :=
  path.toList.getLast? = some '/'

/-- The number of bytes of a name at most. -/
def greatestName : Nat := 255

/-- The number of bytes of a path at most. -/
def greatestPath : Nat := 4095

/-- The location that names lead to. All but what the last one names has to be there. -/
def walk (disk : Disk) (l : Location) : List String → Except Fault Location
  | [] => .ok l
  | name :: rest =>
    match disk.find? l with
    | none => .error .missing
    | some (.file _) => .error .notAFolder
    | some .folder =>
      if name = "." then disk.walk l rest
      else if name = ".." then disk.walk l.dropLast rest
      else if greatestName < name.utf8ByteSize then .error .nameTooLong
      else disk.walk (l ++ [name]) rest

/-- A walk goes on from where its first part ends. -/
theorem walk_append (disk : Disk) (l : Location) (names more : List String) :
    disk.walk l (names ++ more) = (disk.walk l names).bind fun m => disk.walk m more := by
  induction names generalizing l with
  | nil => rfl
  | cons name rest ih =>
    simp only [List.cons_append, walk]
    repeat' split
    all_goals first | rfl | exact ih _

/-- What a path must be like for anyone to walk along it. -/
def checkPath (path : String) : Except Fault Unit :=
  if path = "" then .error .missing
  else if path.toList.contains '\x00' then .error .zeroInPath
  else if greatestPath < path.utf8ByteSize then .error .nameTooLong
  else .ok ()

/-- The location that a path leads to. All but what its last name names has to be there. -/
def resolve (disk : Disk) (path : String) : Except Fault Location := do
  checkPath path
  let l ← disk.walk (disk.startOf path) (parts path)
  match disk.find? l with
  | some (.file _) => if asksFolder path then .error .notAFolder else .ok l
  | _ => .ok l

/-- The location that a path leads to if a file is to be made there unless there is one. A path that
    asks for a folder will not do, whatever its last name names. -/
def resolveNew (disk : Disk) (path : String) : Except Fault Location := do
  checkPath path
  if asksFolder path then
    let _ ← disk.walk (disk.startOf path) ((parts path).dropLast ++ ["."])
    .error .aFolder
  else disk.walk (disk.startOf path) (parts path)

/-- A path with a name added to it. -/
def join (path name : String) : String :=
  if path = "" ∨ asksFolder path then path ++ name else path ++ "/" ++ name

/-- A path that leads to the same place from the root. -/
def absolute (disk : Disk) (path : String) : String :=
  if path.toList.head? = some '/' then path
  else join ("/" ++ "/".intercalate disk.here) path

/-! ## Files -/

/-- Takes a step of making a file, unless something goes wrong with it. -/
def attempt (disk : Disk) (making : Making) : Except Fault Unit :=
  match disk.trouble making with
  | some text => .error (.other text)
  | none => .ok ()

/-- Whether there is something at the end of a path. -/
def has (disk : Disk) (path : String) : Bool :=
  match disk.resolve path with
  | .ok l => (disk.find? l).isSome
  | .error _ => false

/-- The bytes of the file at a location. -/
def content (disk : Disk) (l : Location) : Except Fault Bytes :=
  match disk.find? l with
  | none => .error .missing
  | some .folder => .error .aFolder
  | some (.file b) => .ok b

/-- The bytes of a file. -/
def read (disk : Disk) (path : String) : Except Fault Bytes := do
  disk.content (← disk.resolve path)

/-- The text of a file. -/
def readText (disk : Disk) (path : String) : Except Fault String := do
  match (← disk.read path).text? with
  | some s => .ok s
  | none => .error .notText

/-- Adds bytes at the end of a file, which is made if there is none. -/
def append (disk : Disk) (path : String) (b : Bytes) : Except Fault Disk := do
  let l ← disk.resolveNew path
  match disk.find? l with
  | some (.file old) => .ok (disk.put l (.file (old ++ b)))
  | some .folder => .error .aFolder
  | none => .ok (disk.put l (.file b))

/-! ## Folders -/

/-- The location of the folder of a path; an empty path leads to the folder that paths start
    from. -/
def folder (disk : Disk) (path : String) : Except Fault Location := do
  let l ← if path = "" then .ok disk.here else disk.resolve path
  match disk.find? l with
  | none => .error .missing
  | some (.file _) => .error .notAFolder
  | some .folder => .ok l

/-- Makes the folder that names lead to. What they lead to must not be there yet, but all on the
    way. -/
def makeFolder (disk : Disk) (l : Location) (names : List String) : Except Fault Disk := do
  let m ← disk.walk l names
  match disk.find? m with
  | none => .ok (disk.put m .folder)
  | some _ => .error .taken

/-- Whether names lead to a folder. -/
def hasFolder (disk : Disk) (l : Location) (names : List String) : Bool :=
  match disk.walk l names with
  | .ok m => disk.find? m = some .folder
  | .error _ => false

/-- The names that lead to the folders around the one that names lead to, innermost first. -/
def around (names : List String) : List (List String) :=
  let names := names.filter (· ≠ ".")
  ((List.range names.length).map names.take).reverse.filter (!·.isEmpty)

/-- Something done to a disk, which stays changed also if it fails. -/
abbrev Action (α : Type) := ExceptT Fault (StateM Disk) α

/-- Makes the folder that names lead to, unless it is there. -/
def ensureFolder (l : Location) (names : List String) : Action Unit := do
  let disk ← get
  match disk.makeFolder l names with
  | .ok disk => set disk
  | .error fault => unless disk.hasFolder l names do throw fault

/-- Makes the first of some folders, each of which lies in the one after it, unless it is there.
    Only if something on the way to it is missing those after it are made before. -/
def ensureFolders (l : Location) : List (List String) → Action Unit
  | [] => return ()
  | names :: outer => do
    if (← get).makeFolder l names matches .error .missing then ensureFolders l outer
    ensureFolder l names

/-- Makes the folder of a path with all folders on the way, as far as they are missing. An empty
    path leads to a folder that is there. -/
def makeFolders (path : String) : Action Unit := do
  if path ≠ "" then
    ExceptT.mk (pure (checkPath path))
    ensureFolders ((← get).startOf path) (parts path :: around (parts path))

end Disk

end Formulary
