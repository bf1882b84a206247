import Formulary.Event

/-!
# Stores

A store keeps bytes under digests, in memory or as files of a folder. What is written first under a
digest stays. A store may settle: then what is written becomes visible only after a delay, as in a
store that is spread over several places.

Time is part of the state: `now` only moves when something waits. So is the log of events. The clock
has an end, and a program that asks for a moment beyond it breaks off where it is.

* `later` is where that happens: at the start of a delay or of a timeout;
* `bytes?` is what a store holds under a digest, `fetch?` what of it is visible;
* `lookedAt` is what a look does to a store: when it finds that the delay is over it forgets it;
* `write`, `read` and `digests` are all that the two kinds of shelf differ in; `put` and `fetch`, on
  entries, are made of them.
-/

namespace Formulary

/-- A moment, in nanoseconds from some start. -/
abbrev Instant := Nat

/-- Where the bytes are. -/
inductive Store.Shelf
  | memory (entries : List (Digest × Bytes))
  /-- As files of the folder with the given path. -/
  | folder (path : String)

/-- The delay after which bytes become visible, and when those written so far do. -/
structure Store.Settling where
  delay : Duration
  visibleFrom : List (Digest × Instant)

/-- A store, with the disk around it, the time and the log. -/
structure Store where
  shelf : Store.Shelf
  settling : Option Store.Settling
  disk : Disk
  now : Instant
  log : List Event

namespace Store

/-! ## Time -/

/-- Something that happens to a store. If it breaks off on the way the store stays as it is then. -/
abbrev Run (α : Type) := OptionT (StateM Store) α

/-- Something done to a store, which stays changed also if it fails. -/
abbrev Action (α : Type) := ExceptT Error Run α

/-- The end of the clock: moments from here on cannot be told. -/
def clockEnd : Instant := Duration.secs (Nat.pow 2 63)

/-- The moment so long after now. Nothing goes on if it cannot be told. -/
def later (d : Duration) : Run Instant := do
  let t := (← get).now + d
  if t < clockEnd then return t else failure

/-- Adds an event to the log. -/
def emit (e : Event) : Run Unit :=
  modify fun s => { s with log := s.log ++ [e] }

/-! ## Files of entries -/

/-- What the name of the file of an entry ends in, after a point. -/
def extension : String := "entry"

/-- The name of the file of an entry. -/
def fileName (d : Digest) : String :=
  d.toText ++ "." ++ extension

/-- The parts of a name before and after its last point, if both the point and something before it
    are there. -/
def splitName? (name : String) : Option (String × String) :=
  let reversed := name.toList.reverse
  match reversed.dropWhile (· ≠ '.') with
  | '.' :: stem =>
    if stem.isEmpty then none
    else some (String.ofList stem.reverse, String.ofList (reversed.takeWhile (· ≠ '.')).reverse)
  | _ => none

/-- The digest that a file is named for, if its name ends as that of an entry does. -/
def digestOfName? (name : String) : Option (Except Digest.Fault Digest) :=
  match splitName? name with
  | some (stem, ending) => if ending = extension then some (Digest.ofText stem) else none
  | none => none

/-- The path of the file of an entry in the folder of a path. -/
def filePath (path : String) (d : Digest) : String :=
  Disk.join path (fileName d)

/-- The bytes of the file of an entry, if it is there. -/
def fileBytes? (disk : Disk) (path : String) (d : Digest) : Except Error (Option Bytes) :=
  match disk.read (filePath path d) with
  | .ok b => .ok (some b)
  | .error .missing => .ok none
  | .error fault => .error (.disk (.plain fault))

/-- The name that a file has while it is written. In place of each `X` stands a letter, so that no
    two files have the same one. -/
def draftName : String := ".tmpXXXXXX"

/-- Makes and fills a new file in the folder of a path, under the name of a draft. -/
def makeDraft (disk : Disk) (path : String) : Except Error Unit :=
  let draft := Disk.join (disk.absolute path) draftName
  let made : Except Disk.Fault Unit := do
    let _ ← disk.resolveNew draft
    disk.attempt .draft
    disk.attempt .fill
  made.mapError fun fault => .disk (.newFile draft fault)

/-- The location that a draft is moved to when it becomes the file of an entry. -/
def keepDraft (disk : Disk) (path : String) (d : Digest) : Except Disk.Fault Location := do
  disk.attempt .keep
  disk.resolve (filePath path d)

/-- The disk with a file for an entry, unless there is something of that name, or comes to be while
    the file is made. If it fails nothing is left of the draft. -/
def writeFile (disk : Disk) (path : String) (d : Digest) (b : Bytes) :
    Except Error (Bool × Disk) := do
  if disk.has (filePath path d) then .ok (false, disk)
  else
    makeDraft disk path
    (disk.attempt .sync).mapError fun fault => .disk (.plain fault)
    match keepDraft disk path d with
    | .ok l => .ok (true, disk.put l (.file b))
    | .error .taken => .ok (false, disk)
    | .error fault => .error (.disk (.keeping (filePath path d) fault))

/-- The names in the folder of a store, in order. -/
def fileNames (disk : Disk) (path : String) : Except Error (List String) :=
  match if path = "" then .error .missing else disk.folder path with
  | .error fault => .error (.disk (.plain fault))
  | .ok l => .ok ((disk.namesIn l).mergeSort (· ≤ ·))

/-- The digest that a file is named for, or the event of skipping it. -/
def digestOrSkip (path name : String) : Option (Except Event Digest) :=
  (digestOfName? name).map (·.mapError (.fileSkipped (Disk.join path name)))

/-! ## Bytes -/

/-- The bytes under a digest. -/
def bytes? (s : Store) (d : Digest) : Except Error (Option Bytes) :=
  match s.shelf with
  | .memory entries => .ok (entries.lookup d)
  | .folder path => fileBytes? s.disk path d

/-- When what is under a digest becomes visible, as far as the store remembers it. -/
def visibleFrom? (s : Store) (d : Digest) : Option Instant :=
  s.settling.bind (·.visibleFrom.lookup d)

/-- Whether what is under a digest may be seen. -/
def isVisible (s : Store) (d : Digest) : Bool :=
  match s.visibleFrom? d with
  | some start => start ≤ s.now
  | none => true

/-- The bytes under a digest that may be seen. -/
def fetch? (s : Store) (d : Digest) : Except Error (Option Bytes) :=
  if s.isVisible d then s.bytes? d else .ok none

/-- The store no longer remembers since when what is under a digest may be seen. -/
def forget (s : Store) (d : Digest) : Store :=
  { s with settling := s.settling.map fun t =>
      { t with visibleFrom := t.visibleFrom.filter (·.1 ≠ d) } }

/-- The store after a look under a digest. Of what may be seen it is forgotten since when. -/
def lookedAt (s : Store) (d : Digest) : Store :=
  if s.isVisible d then s.forget d else s

/-- Looks whether what is under a digest may be seen. -/
def isSettled (d : Digest) : Run Bool := do
  let s ← get
  set (s.lookedAt d)
  return s.isVisible d

/-- Puts bytes under a digest, unless there are some. Tells whether there were none. -/
def writeToShelf (d : Digest) (b : Bytes) : Action Bool := do
  let s ← get
  match s.shelf with
  | .memory entries =>
    if (entries.lookup d).isSome then return false
    else
      set { s with shelf := .memory (entries ++ [(d, b)]) }
      return true
  | .folder path =>
    let (written, disk) ← liftExcept (writeFile s.disk path d b)
    set { s with disk }
    return written
where
  liftExcept {α : Type} : Except Error α → Action α := fun e => ExceptT.mk (pure e)

/-- What is under a digest becomes visible after the delay, from now on. -/
def settle (d : Digest) : Run Unit := do
  if let some t := (← get).settling then
    let start ← later t.delay
    let visibleFrom := (d, start) :: t.visibleFrom
    modify fun s => { s with settling := some { t with visibleFrom } }

/-- Writes bytes under a digest, unless there are some. Tells whether there were none. -/
def write (d : Digest) (b : Bytes) : Action Bool := do
  let written ← writeToShelf d b
  if written then settle d
  return written

/-- Reads the bytes under a digest that may be seen. -/
def read (d : Digest) : Action (Option Bytes) := do
  if ← isSettled d then ExceptT.mk (pure ((← get).bytes? d)) else return none

/-- All digests that there are bytes under, in order, whether they may be seen or not. -/
def shelfDigests : Action (List Digest) := do
  let s ← get
  match s.shelf with
  | .memory entries => return (entries.map Prod.fst).mergeSort Digest.le
  | .folder path =>
    let found ← ExceptT.mk (pure ((fileNames s.disk path).map fun names =>
      names.filterMap (digestOrSkip path)))
    let skipped := found.filterMap fun | .error e => some e | .ok _ => none
    let digests := found.filterMap Except.toOption
    modify fun s => { s with log := s.log ++ skipped }
    return digests.mergeSort Digest.le

/-- Those digests under which what is there may be seen. -/
def settledAmong : List Digest → Run (List Digest)
  | [] => return []
  | d :: ds => do
    let visible ← isSettled d
    let rest ← settledAmong ds
    return if visible then d :: rest else rest

/-- All digests that there are bytes under that may be seen, in order. -/
def digests : Action (List Digest) := do
  settledAmong (← shelfDigests)

/-! ## Entries -/

/-- Stores an entry and gives its digest. -/
def put (entry : Entry) : Action Digest := do
  let d := entry.digest
  if ← write d entry.encode then emit (.written d) else emit (.alreadyWritten d)
  return d

/-- The entry under a digest. The bytes there must have that digest. -/
def fetch (d : Digest) : Action Entry := do
  match ← read d with
  | none => throw (.notFound d)
  | some b =>
    let actual := Digest.of b
    if actual ≠ d then
      emit (.wrongBytes d actual)
      throw (.doubtful d (.otherBytes actual))
    match Entry.decode b with
    | .ok entry => return entry
    | .error e => throw (.undecodable e)

/-- Whether there are bytes under a digest that may be seen. -/
def holds (d : Digest) : Action Bool := do
  return (← read d).isSome

/-! ## Opening -/

/-- A store in memory, with nothing in it. -/
def inMemory (settle : Option Duration) (disk : Disk) (now : Instant) : Store :=
  ⟨.memory [], settle.map (⟨·, []⟩), disk, now, []⟩

/-- A store that is being opened on a disk, which stays changed also if that fails. -/
abbrev Opening := ExceptT Error (StateM Disk) Store

/-- A store in the folder of a path, which is made if there is none. -/
def inFolder (path : String) (settle : Option Duration) (now : Instant) : Opening := do
  ExceptT.adapt (fun fault => .disk (.opening path fault)) (Disk.makeFolders path)
  return ⟨.folder path, settle.map (⟨·, []⟩), ← get, now, [.folderOpened path]⟩

/-- The store that the settings ask for. -/
def ofSettings (settings : Settings) (now : Instant) : Opening := do
  let s ←
    match settings.backend with
    | .memory => pure (inMemory settings.settleDelay (← get) now)
    | .file => inFolder settings.path settings.settleDelay now
  return { s with log := s.log ++ [.ready settings.backend settings.settleDelay] }

end Store

end Formulary
