import Formulary.Proofs.Prompt.Steps

/-!
# Transcripts

A session may be recorded in a file, then in another one, then in none. Whatever lines are typed,
and whether or not a file can be opened each time it is asked for, a file gets the lines that were
typed while the session was recorded in it, and the replies that were given while it was, and
nothing else (`transcript_of_course`).

The file of a transcript is on the disk of the server, which makes files of its own there, and
between two lines others use the disk as well (`Idles`). What is recorded follows what is in the
file at that time (`Disk.Gains`).
-/

namespace Formulary

/-! ## Files that get more -/

/-- Bytes were added to the file at a location. They follow what was in the file before or, if
    nothing was there, what may have come there as the file of an entry. -/
structure Disk.Gains (l : Location) (b : Bytes) (disk disk' : Disk) : Prop where
  find?_eq_none : disk'.find? l = none → disk.find? l = none
  held_eq : ∃ base, (base = disk.held l ∨
    disk.find? l = none ∧ ∃ entry : Entry, base = entry.encode) ∧ disk'.held l = base ++ b

namespace Disk.Gains

variable {disk disk' disk'' : Disk} {l m : Location} {b b' : Bytes}

/-- A file that is as it was has got nothing. -/
theorem of_find?_eq (h : disk'.find? l = disk.find? l) : Gains l [] disk disk' :=
  ⟨fun hnone => h ▸ hnone, _, .inl rfl, by rw [held_eq_of_find?_eq h, List.append_nil]⟩

theorem refl (l : Location) (disk : Disk) : Gains l [] disk disk := of_find?_eq rfl

/-- What a server does to the disk adds nothing to a file, though it may make one. -/
theorem of_getsEntries (h : GetsEntries disk disk') (l : Location) : Gains l [] disk disk' := by
  rcases h.find?_cases l with hl | ⟨hnone, entry, hentry⟩
  · exact of_find?_eq hl
  · refine ⟨fun _ => hnone, entry.encode, .inr ⟨hnone, entry, rfl⟩, ?_⟩
    rw [held_of_find? hentry, List.append_nil]

/-- Bytes that are put behind what a file holds are added to it, and to no other file. -/
theorem put (hm : m ≠ []) (b : Bytes) :
    Gains l (if m = l then b else []) disk (disk.put m (.file (disk.held m ++ b))) := by
  by_cases hl : m = l
  · subst hl
    refine ⟨fun hnone => ?_, _, .inl rfl, by rw [held_put _ _ _ hm, if_pos rfl, if_pos rfl]⟩
    rw [find?_put _ _ _ hm, if_pos rfl] at hnone
    cases hnone
  · rw [if_neg hl]
    exact of_find?_eq (by rw [find?_put _ _ _ hm, if_neg (Ne.symm hl)])

/-- What is added first comes first. -/
theorem trans (h : Gains l b disk disk') (h' : Gains l b' disk' disk'') :
    Gains l (b ++ b') disk disk'' := by
  obtain ⟨base, hbase, hheld⟩ := h.held_eq
  obtain ⟨base', hbase' | ⟨hnone, entry, rfl⟩, hheld'⟩ := h'.held_eq
  · refine ⟨fun hnone => h.find?_eq_none (h'.find?_eq_none hnone), base, hbase, ?_⟩
    rw [hheld', hbase', hheld, List.append_assoc]
  · -- an entry has come to where nothing was, so nothing has been added there before
    rw [held_of_missing hnone] at hheld
    obtain ⟨-, rfl⟩ := List.append_eq_nil_iff.1 hheld.symm
    exact ⟨fun _ => h.find?_eq_none hnone, _, .inr ⟨h.find?_eq_none hnone, entry, rfl⟩, hheld'⟩

end Disk.Gains

namespace Prompt

variable {s t u : State} {line : String} {l : Location} {stamp : Instant → String}

/-! ## Where a session is recorded -/

/-- The location of the file that the session is recorded in. -/
def State.target? (s : State) : Option Location :=
  s.session.recording.bind fun path => (s.store.disk.resolveNew path).toOption

/-- The session is recorded in a file that is there, if it is recorded. -/
def State.IsOpen (s : State) : Prop :=
  ∀ path, s.session.recording = some path → ∃ l, s.store.disk.OpensAt path l

/-- A session is recorded in the file that its path opens. -/
theorem target?_of_opensAt {path : String} (hpath : s.session.recording = some path)
    (h : s.store.disk.OpensAt path l) : s.target? = some l := by
  rw [State.target?, hpath, Option.bind_some, h.resolveNew_eq]
  rfl

theorem target?_of_none (h : s.session.recording = none) : s.target? = none := by
  rw [State.target?, h, Option.bind_none]

/-- The state with one more record in the file that the session is recorded in, if it is. -/
def State.withRecord (s : State) (r : Record) : State :=
  { s with store := { s.store with disk := s.session.record s.store.disk r.toJson } }

@[simp] theorem withRecord_session (s : State) (r : Record) :
    (s.withRecord r).session = s.session := rfl

/-- A session that is not recorded leaves no record. -/
theorem withRecord_of_none (h : s.session.recording = none) (r : Record) : s.withRecord r = s := by
  rw [State.withRecord, Session.record, h]

/-- The record is put at the end of the file that is open. -/
theorem withRecord_of_opensAt {path : String} (hpath : s.session.recording = some path)
    (h : s.store.disk.OpensAt path l) (r : Record) :
    (s.withRecord r).store.disk =
      s.store.disk.put l (.file (s.store.disk.held l ++ transcript [r])) := by
  have htranscript : transcript [r] = Bytes.ofText (r.toJson.compact ++ "\n") := by
    rw [transcript, List.map_singleton, Text.unlines, Text.unlines, String.append_empty,
      Record.line]
  dsimp only [State.withRecord]
  rw [Session.record, hpath, htranscript]
  dsimp only
  rw [h.append_eq]

/-- After a record the file is still there. -/
theorem isOpen_withRecord (hs : s.IsOpen) (r : Record) : (s.withRecord r).IsOpen := by
  intro path hpath
  rw [withRecord_session] at hpath
  obtain ⟨m, hm⟩ := hs path hpath
  rw [withRecord_of_opensAt hpath hm]
  exact ⟨m, hm.put hm.ne_nil hm.ne_folder _⟩

/-- A record does not change where the session is recorded. -/
theorem target?_withRecord (hs : s.IsOpen) (r : Record) : (s.withRecord r).target? = s.target? := by
  rcases hpath : s.session.recording with _ | path
  · rw [withRecord_of_none hpath]
  · obtain ⟨m, hm⟩ := hs path hpath
    rw [target?_of_opensAt hpath hm]
    refine target?_of_opensAt hpath ?_
    rw [withRecord_of_opensAt hpath hm]
    exact hm.put hm.ne_nil hm.ne_folder _

/-- A record goes to the file that the session is recorded in, and to no other one. -/
theorem gains_withRecord (hs : s.IsOpen) (r : Record) (l : Location) :
    s.store.disk.Gains l (transcript (if s.target? = some l then [r] else []))
      (s.withRecord r).store.disk := by
  rcases hpath : s.session.recording with _ | path
  · rw [withRecord_of_none hpath, target?_of_none hpath, if_neg nofun]
    exact .refl l _
  · obtain ⟨m, hm⟩ := hs path hpath
    rw [withRecord_of_opensAt hpath hm, target?_of_opensAt hpath hm, apply_ite transcript]
    simpa only [Option.some_inj, transcript_nil] using Disk.Gains.put hm.ne_nil (transcript [r])

/-! ## Lines -/

namespace Called

/-- A call leaves the file of the session where it is. -/
theorem isOpen (h : Called s t) (hs : s.IsOpen) : t.IsOpen := by
  intro path hpath
  rw [h.session_eq] at hpath
  exact (hs path hpath).imp fun m hm => h.getsEntries.opensAt hm

theorem gains (h : Called s t) (l : Location) : s.store.disk.Gains l [] t.store.disk :=
  .of_getsEntries h.getsEntries l

end Called

namespace Responds

variable {r : Except String (Option String)}

/-- Whatever a line does, the session is recorded in a file that is there or not at all. -/
theorem isOpen (h : Responds line s r t) (hs : s.IsOpen) : t.IsOpen := by
  cases h with
  | quits => exact hs
  | records _ hopen =>
    rintro path ⟨⟩
    obtain ⟨m, hm, -⟩ := Disk.exists_opensAt_of_append hopen
    exact ⟨m, hm⟩
  | opensNot => exact hs
  | stops => exact nofun
  | creates _ ht => exact ht.isOpen hs
  | createsNot _ ht => exact ht.isOpen hs
  | asks _ _ ht => exact ht.isOpen hs

/-- Between the records nothing is added to a file. -/
theorem gains (h : Responds line s r t) (l : Location) :
    s.store.disk.Gains l [] t.store.disk := by
  cases h with
  | quits => exact .refl l _
  | records _ hopen =>
    obtain ⟨m, -, hm, -, rfl⟩ := Disk.exists_opensAt_of_append hopen
    simpa only [ite_self] using Disk.Gains.put hm []
  | opensNot => exact .refl l _
  | stops => exact .refl l _
  | creates _ ht => exact ht.gains l
  | createsNot _ ht => exact ht.gains l
  | asks _ _ ht => exact ht.gains l

end Responds

/-- The state with the command recorded. -/
def State.withCommand (stamp : Instant → String) (line : String) (s : State) : State :=
  s.withRecord (.command ⟨stamp s.store.now, line⟩)

/-- The state with the text of the reply recorded. -/
def State.withReply (stamp : Instant → String) (reply : Reply) (s : State) : State :=
  match reply.text? with
  | some text => s.withRecord (.output ⟨stamp s.store.now, text⟩)
  | none => s

/-- A reply is recorded if it has a text. -/
theorem withReply_cases (reply : Reply) (s : State) :
    reply.text? = none ∧ s.withReply stamp reply = s ∨ ∃ text, reply.text? = some text ∧
      s.withReply stamp reply = s.withRecord (.output ⟨stamp s.store.now, text⟩) := by
  rw [State.withReply]
  rcases reply.text? with _ | text
  · exact .inl ⟨rfl, rfl⟩
  · exact .inr ⟨text, rfl, rfl⟩

@[simp] theorem withReply_session (reply : Reply) (s : State) :
    (s.withReply stamp reply).session = s.session := by
  rcases @withReply_cases stamp reply s with ⟨-, h⟩ | ⟨text, -, h⟩ <;> rw [h]
  rfl

theorem isOpen_withReply (hs : s.IsOpen) (reply : Reply) : (s.withReply stamp reply).IsOpen := by
  rcases @withReply_cases stamp reply s with ⟨-, h⟩ | ⟨text, -, h⟩ <;> rw [h]
  · exact hs
  · exact isOpen_withRecord hs _

/-! ## Between lines -/

/-- Between two lines others use the disk, and time goes by. What is left alone is the session, the
    file that it is recorded in and the file at the location, if any. -/
structure Idles (l : Location) (s t : State) : Prop where
  session_eq : t.session = s.session
  target?_eq : t.target? = s.target?
  isFile : ∀ m, s.target? = some m → ∃ b, t.store.disk.find? m = some (.file b)
  find?_eq : t.store.disk.find? l = s.store.disk.find? l

/-- What others do leaves the file of the session where it is. -/
theorem Idles.isOpen (h : Idles l s t) (hs : s.IsOpen) : t.IsOpen := by
  intro path hpath
  have hpath' : s.session.recording = some path := h.session_eq ▸ hpath
  obtain ⟨m, hm⟩ := hs path hpath'
  have htarget := target?_of_opensAt hpath' hm
  have htarget' := h.target?_eq.trans htarget
  rw [State.target?, hpath, Option.bind_some] at htarget'
  exact ⟨m, toOption_eq_some_iff.1 htarget', h.isFile m htarget⟩

section

variable [Wording]

/-! ## Steps -/

/-- A blank line has no reply and does nothing. -/
theorem run_step_of_blank (h : Text.isAllBlank line) (s : State) :
    (step stamp line).run s = (.nothing, s) := by
  rw [step, if_pos h]
  rfl

/-- Any other line is recorded, then obeyed, and then the reply is recorded. -/
theorem run_step (h : Text.isAllBlank line = false) (s : State) :
    (step stamp line).run s =
      let (r, t) := (respond line).run.run (s.withCommand stamp line)
      (.ofResult r, t.withReply stamp (.ofResult r)) := by
  have hrecord :
      (recordWith (fun session disk time => session.recordCommand disk time line) stamp).run s =
        ((), s.withCommand stamp line) := rfl
  rw [step, if_neg (by simp [h]), StateT.run_bind, hrecord]
  change ((respond line).run >>= _).run (s.withCommand stamp line) = _
  rw [StateT.run_bind]
  rcases (respond line).run.run (s.withCommand stamp line) with ⟨_ | _ | text, t⟩ <;> rfl

/-! ## Moments -/

/-- A line, and the state in which it is taken. -/
structure Moment where
  before : State
  line : String

namespace Moment

/-- The reply to the line. -/
def reply (stamp : Instant → String) (m : Moment) : Reply :=
  ((step stamp m.line).run m.before).1

/-- The state that the line leaves. -/
def after (stamp : Instant → String) (m : Moment) : State :=
  ((step stamp m.line).run m.before).2

/-- The record of the line for the file at a location: there is one if the line is not blank, and
    the session is recorded there when it is typed. -/
def commandsIn (stamp : Instant → String) (l : Location) (m : Moment) : List Record :=
  if Text.isAllBlank m.line = false ∧ m.before.target? = some l then
    [.command ⟨stamp m.before.store.now, m.line⟩]
  else []

/-- The record of the reply for the file at a location: there is one if the reply has a text, and
    the session is recorded there when it is given. -/
def outputsIn (stamp : Instant → String) (l : Location) (m : Moment) : List Record :=
  match (m.reply stamp).text? with
  | some text =>
    if (m.after stamp).target? = some l then
      [.output ⟨stamp (m.after stamp).store.now, text⟩]
    else []
  | none => []

/-- The records for the file at a location. -/
def recordsIn (stamp : Instant → String) (l : Location) (m : Moment) : List Record :=
  m.commandsIn stamp l ++ m.outputsIn stamp l

variable {m : Moment}

theorem reply_of_blank (h : Text.isAllBlank m.line) : m.reply stamp = .nothing :=
  congrArg Prod.fst (run_step_of_blank h m.before)

theorem after_of_blank (h : Text.isAllBlank m.line) : m.after stamp = m.before :=
  congrArg Prod.snd (run_step_of_blank h m.before)

/-- What a line does that is not blank: it is recorded, then obeyed, then its reply is recorded. -/
theorem exists_responds (stamp : Instant → String) (h : Text.isAllBlank m.line = false) : ∃ r t,
    Responds m.line (m.before.withCommand stamp m.line) r t ∧
      m.reply stamp = .ofResult r ∧ m.after stamp = t.withReply stamp (.ofResult r) :=
  ⟨_, _, responds m.line _, congrArg Prod.fst (run_step h m.before),
    congrArg Prod.snd (run_step h m.before)⟩

/-- After a line the session is recorded in a file that is there, or not at all. -/
theorem isOpen_after (hs : m.before.IsOpen) : (m.after stamp).IsOpen := by
  rcases hblank : Text.isAllBlank m.line with _ | _
  · obtain ⟨r, t, hr, -, hafter⟩ := exists_responds stamp hblank
    rw [hafter]
    exact isOpen_withReply (hr.isOpen (isOpen_withRecord hs _)) _
  · rw [after_of_blank hblank]
    exact hs

/-- The file at a location gets the records that are for it. -/
theorem gains (hs : m.before.IsOpen) (l : Location) :
    m.before.store.disk.Gains l (transcript (m.recordsIn stamp l)) (m.after stamp).store.disk := by
  rcases hblank : Text.isAllBlank m.line with _ | _
  · obtain ⟨r, t, hr, hreply, hafter⟩ := exists_responds stamp hblank
    have hopen : t.IsOpen := hr.isOpen (isOpen_withRecord hs _)
    have hcommand : m.before.store.disk.Gains l (transcript (m.commandsIn stamp l))
        (m.before.withCommand stamp m.line).store.disk := by
      simp only [commandsIn, hblank, true_and]
      exact gains_withRecord hs _ l
    have houtput : t.store.disk.Gains l (transcript (m.outputsIn stamp l))
        (m.after stamp).store.disk := by
      rw [outputsIn, hreply, hafter]
      rcases @withReply_cases stamp (.ofResult r) t with ⟨htext, h⟩ | ⟨text, htext, h⟩ <;>
        rw [htext, h]
      · exact .refl l _
      · dsimp only
        rw [target?_withRecord hopen]
        exact gains_withRecord hopen _ l
    rw [recordsIn, transcript_append]
    exact hcommand.trans ((hr.gains l).trans houtput)
  · rw [recordsIn, commandsIn, outputsIn, reply_of_blank hblank, after_of_blank hblank, hblank]
    exact .refl l _

/-- The digest that is remembered is told by the command and its reply. -/
theorem lastHash_after : (m.after stamp).session.lastHash =
    (created? (Command.ofLine m.line) (m.reply stamp)).or m.before.session.lastHash := by
  rcases hblank : Text.isAllBlank m.line with _ | _
  · obtain ⟨r, t, hr, hreply, hafter⟩ := exists_responds stamp hblank
    rw [hreply, hafter, withReply_session]
    exact hr.lastHash_eq
  · rw [created?_of_asks (onlyAsks_of_blank hblank), after_of_blank hblank, Option.none_or]

end Moment

/-- A course of a session from a state to another one, with the lines so far in order. -/
inductive Course (stamp : Instant → String) (l : Location) (s : State) : List Moment → State → Prop
  | start : Course stamp l s [] s
  | idle {ms : List Moment} {t u : State} (h : Course stamp l s ms t) (hu : Idles l t u) :
      Course stamp l s ms u
  | line {ms : List Moment} {t : State} (h : Course stamp l s ms t) (line : String) :
      Course stamp l s (ms ++ [⟨t, line⟩]) (Moment.after stamp ⟨t, line⟩)

namespace Course

variable {ms ms' : List Moment}

/-- A course goes on where another one ends. -/
theorem trans (h : Course stamp l s ms t) (h' : Course stamp l t ms' u) :
    Course stamp l s (ms ++ ms') u := by
  induction h' with
  | start => rwa [List.append_nil]
  | idle _ hu ih => exact ih.idle hu
  | line _ line ih =>
    rw [← List.append_assoc]
    exact ih.line line

/-- In a course the session is always recorded in a file that is there, or not at all. -/
theorem isOpen (hs : s.IsOpen) (h : Course stamp l s ms t) :
    t.IsOpen ∧ ∀ m ∈ ms, m.before.IsOpen := by
  induction h with
  | start => exact ⟨hs, nofun⟩
  | idle _ hu ih => exact ⟨hu.isOpen ih.1, ih.2⟩
  | line _ line ih =>
    refine ⟨Moment.isOpen_after ih.1, List.forall_mem_append.2 ⟨ih.2, ?_⟩⟩
    exact List.forall_mem_singleton.2 ih.1

/-- Over a course a file gets the records that are for it, in order. -/
theorem gains (hs : s.IsOpen) (h : Course stamp l s ms t) :
    s.store.disk.Gains l (transcript (ms.flatMap (Moment.recordsIn stamp l))) t.store.disk := by
  induction h with
  | start => exact .refl l _
  | idle _ hu ih => simpa only [List.append_nil] using ih.trans (.of_find?_eq hu.find?_eq)
  | line h line ih =>
    rw [List.flatMap_append, transcript_append, List.flatMap_singleton]
    exact ih.trans (Moment.gains (h.isOpen hs).1 l)

/-- In the end the digest is remembered that was given last. -/
theorem lastHash_eq (h : Course stamp l s ms t) : t.session.lastHash =
    (ms.filterMap fun m => created? (Command.ofLine m.line) (m.reply stamp)).getLast?.or
      s.session.lastHash := by
  induction h with
  | start => rfl
  | idle _ hu ih => rw [hu.session_eq, ih]
  | @line ms t h line ih =>
    rw [Moment.lastHash_after, List.filterMap_append, List.getLast?_append, ih]
    rcases hcreated : created? (Command.ofLine line) (Moment.reply stamp ⟨t, line⟩) with _ | hash
    · simp [hcreated]
    · simp [hcreated]

end Course

end

end Prompt

end Formulary
