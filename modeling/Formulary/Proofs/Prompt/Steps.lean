import Formulary.Proofs.Client.Sessions
import Formulary.Proofs.Prompt.Records
import Formulary.Proofs.Server.Additions

/-!
# What a line does

A line at the prompt either changes what the session remembers, in one of few ways, or only calls
the server (`Responds`).
-/

namespace Formulary.Prompt

variable {s t : State} {line : String} {α β : Type}

/-! ## Commands -/

/-- The first word of a line starts where the line does, blanks aside. -/
theorem head?_trimStart_of_word {c : Char} (h : (Command.split line).1.toList.head? = some c) :
    (Text.trimStart line.toList).head? = some c := by
  obtain ⟨rest, hrest⟩ : Text.trimEnd (Text.trimStart line.toList) <+: Text.trimStart line.toList :=
    List.reverse_suffix.1 (by simpa [Text.trimEnd] using List.dropWhile_suffix _)
  rw [Command.split, Text.trim, String.toList_ofList, String.toList_ofList,
    List.head?_takeWhile, Option.filter_eq_some_iff] at h
  rw [← hrest, List.head?_append, h.1, Option.some_or]

/-- What is read as a command starts with a colon. -/
theorem isCommand_of_ofLine {command : Command} (h : Command.ofLine line = .ok command) :
    isCommand line := by
  have hword : (Command.split line).1.toList.head? = some ':' := by
    rw [Command.ofLine] at h
    dsimp only at h
    split at h
    all_goals first | (rename_i hword; rw [hword]; rfl) | cases h
  rw [isCommand, head?_trimStart_of_word hword]
  rfl

/-- A blank line is no command. -/
theorem isAllBlank_of_ofLine {command : Command} (h : Command.ofLine line = .ok command) :
    Text.isAllBlank line = false := by
  refine Bool.eq_false_iff.2 fun hblank => ?_
  have hcolon := isCommand_of_ofLine h
  rw [isCommand, Text.trimStart, List.dropWhile_eq_nil_iff.2 (List.all_eq_true.1 hblank)] at hcolon
  cases hcolon

/-- The commands that change, when they are obeyed, what a session remembers, or end it. -/
def Command.changesSession : Command → Bool
  | create _ | recordOn _ | recordOff | quit => true
  | get _ | wait _ | list | help => false

/-- The line is no command that changes what a session remembers, or ends it. -/
def OnlyAsks (line : String) : Prop :=
  ∀ command, Command.ofLine line = .ok command → command.changesSession = false

/-- A blank line asks for nothing. -/
theorem onlyAsks_of_blank (h : Text.isAllBlank line) : OnlyAsks line :=
  fun _ hcommand => absurd h (by simp [isAllBlank_of_ofLine hcommand])

/-! ## Calls -/

/-- The session is as before, and so is the disk but for files of entries. -/
structure Called (s t : State) : Prop where
  session_eq : t.session = s.session
  getsEntries : s.store.disk.GetsEntries t.store.disk

theorem Called.refl (s : State) : Called s s := ⟨rfl, .refl _⟩

theorem Called.trans {u : State} (h : Called s t) (h' : Called t u) : Called s u :=
  ⟨h'.session_eq.trans h.session_eq, h.getsEntries.trans h'.getsEntries⟩

/-- All that the action does is to call the server. -/
def Calls (x : Action α) : Prop :=
  ∀ s : State, Called s (x.run.run s).2

theorem run_bind (x : Action α) (f : α → Action β) (s : State) :
    (x >>= f).run.run s =
      match x.run.run s with
      | (.ok a, t) => (f a).run.run t
      | (.error text, t) => (.error text, t) := by
  simp only [ExceptT.run_bind, StateT.run_bind]
  rcases x.run.run s with ⟨_ | a, t⟩ <;> rfl

theorem run_get (s : State) : (get : Action State).run.run s = (.ok s, s) := rfl

namespace Calls

theorem bind {x : Action α} {f : α → Action β} (hx : Calls x) (hf : ∀ a, Calls (f a)) :
    Calls (x >>= f) := by
  intro s
  have h := hx s
  rw [run_bind]
  revert h
  rcases x.run.run s with ⟨_ | a, t⟩ <;> intro h
  · exact h
  · exact h.trans (hf a t)

theorem pure (a : α) : Calls (Pure.pure a : Action α) := fun s => .refl s

/-- A call leaves the session as it is, and the disk but for files of entries. -/
theorem call [Wording] (c : Client.Call α) : Calls (Prompt.call c) := by
  rintro ⟨session, calls, registry | _ | _, store⟩
  · rw [Client.run_call]
    have h := Server.getsEntries_answer registry (c.line (calls + 1)) store
    revert h
    rcases (Server.answer registry (c.line (calls + 1))).run.run store with ⟨_ | answer, u⟩ <;>
      exact fun h => ⟨rfl, h⟩
  · exact ⟨rfl, .refl store.disk⟩
  · exact ⟨rfl, .refl store.disk⟩

end Calls

/-- A digest that is not given is that of what was created last, if there is one. -/
theorem run_resolve (given : Option String) (s : State) :
    (resolve given).run.run s =
      match s.session.resolve given with
      | some hash => (.ok hash, s)
      | none => (.error "No hash given and nothing created yet", s) := by
  rw [resolve, run_bind, run_get]
  dsimp only
  rcases s.session.resolve given with _ | hash <;> rfl

theorem calls_resolve (given : Option String) : Calls (resolve given) := by
  intro s
  rw [run_resolve]
  rcases s.session.resolve given with _ | hash <;> exact .refl s

/-- What does not change the session calls the server, or does nothing. -/
theorem calls_obey [Wording] {command : Command} (h : command.changesSession = false) :
    Calls (obey command) := by
  cases command with
  | get hash => exact (calls_resolve hash).bind fun _ => (Calls.call _).bind fun _ => .pure _
  | wait hash => exact (calls_resolve hash).bind fun _ => (Calls.call _).bind fun _ => .pure _
  | list => exact (Calls.call _).bind fun _ => .pure _
  | help => exact .pure _
  | create source => cases h
  | recordOn path => cases h
  | recordOff => cases h
  | quit => cases h

/-! ## Lines -/

/-- The line comes to the result, a text to reply with, if it does not end the session, or what is
    said of a failure, and leaves `t`. -/
inductive Responds (line : String) (s : State) : Except String (Option String) → State → Prop
  | quits (h : Command.ofLine line = .ok .quit) : Responds line s (.ok none) s
  | records {path : String} {disk : Disk} (h : Command.ofLine line = .ok (.recordOn path))
      (hopen : s.store.disk.append path [] = .ok disk) :
      Responds line s (.ok (some ("Recording to " ++ path)))
        { s with
          session := { s.session with recording := some path }
          store := { s.store with disk } }
  | opensNot {path : String} {fault : Disk.Fault} (h : Command.ofLine line = .ok (.recordOn path))
      (hopen : s.store.disk.append path [] = .error fault) :
      Responds line s (.error fault.message) s
  | stops (h : Command.ofLine line = .ok .recordOff) :
      Responds line s (.ok (some "Stopped recording.")) { s with session := s.session.stop }
  | creates {source hash : String} {t : State} (h : Command.ofLine line = .ok (.create source))
      (ht : Called s t) :
      Responds line s (.ok (some hash)) { t with session := t.session.created hash }
  | createsNot {source error : String} {t : State} (h : Command.ofLine line = .ok (.create source))
      (ht : Called s t) : Responds line s (.error error) t
  | asks {r : Except String (Option String)} {t : State} (h : OnlyAsks line) (hr : r ≠ .ok none)
      (ht : Called s t) : Responds line s r t

/-- A command is obeyed, and what it shows is the reply. -/
theorem run_respond_of_command [Wording] {command : Command} (h : Command.ofLine line = .ok command)
    (hquit : command ≠ .quit) (s : State) :
    (respond line).run.run s =
      (((obey command).run.run s).1.map some, ((obey command).run.run s).2) := by
  have hrespond : respond line = obey command >>= fun text => pure (some text) := by
    rw [respond, if_pos (isCommand_of_ofLine h), h]
    cases command <;> first | rfl | exact absurd rfl hquit
  rw [hrespond, run_bind]
  rcases (obey command).run.run s with ⟨_ | text, t⟩ <;> rfl

/-- A program is checked, and what is no command is told of. -/
theorem responds_of_no_command [Wording] {fault : Command.Fault}
    (h : Command.ofLine line = .error fault) (s : State) :
    Responds line s ((respond line).run.run s).1 ((respond line).run.run s).2 := by
  have hnone : OnlyAsks line := by simp [OnlyAsks, h]
  rw [respond]
  split_ifs
  · rw [h]
    exact .asks hnone nofun (.refl s)
  · have hcalls : Calls (do return some (checkText (← call (Client.check line)))) :=
      (Calls.call _).bind fun _ => .pure _
    refine .asks hnone ?_ (hcalls s)
    rw [run_bind]
    rcases (call (Client.check line)).run.run s with ⟨_ | result, t⟩ <;> nofun

/-- The digest of a program that is stored is remembered. -/
theorem responds_of_create [Wording] {source : String}
    (h : Command.ofLine line = .ok (.create source)) (s : State) :
    Responds line s ((respond line).run.run s).1 ((respond line).run.run s).2 := by
  rw [run_respond_of_command h nofun, obey, run_bind]
  have hcalled := Calls.call (Client.create source []) s
  rcases hcall : (call (Client.create source [])).run.run s with ⟨error | hash, t⟩ <;>
    rw [hcall] at hcalled
  · exact .createsNot h hcalled
  · exact .creates h hcalled

/-- A session is recorded from then on if the file can be opened. -/
theorem responds_of_recordOn [Wording] {path : String}
    (h : Command.ofLine line = .ok (.recordOn path)) (s : State) :
    Responds line s ((respond line).run.run s).1 ((respond line).run.run s).2 := by
  rw [run_respond_of_command h Command.noConfusion, obey, run_bind, run_get]
  dsimp only
  rcases hopen : s.store.disk.append path [] with fault | disk
  · have hstart : s.session.start s.store.disk path = .error fault := by
      rw [Session.start, hopen]
      rfl
    rw [hstart]
    exact .opensNot h hopen
  · have hstart : s.session.start s.store.disk path =
        .ok ({ s.session with recording := some path }, disk) := by
      rw [Session.start, hopen]
      rfl
    rw [hstart]
    exact .records h hopen

/-- Whatever the line is, what it does is one of these. -/
theorem responds [Wording] (line : String) (s : State) :
    Responds line s ((respond line).run.run s).1 ((respond line).run.run s).2 := by
  rcases h : Command.ofLine line with fault | command
  · exact responds_of_no_command h s
  by_cases hchanges : command.changesSession = false
  · have hquit : command ≠ .quit := by
      rintro rfl
      cases hchanges
    rw [run_respond_of_command h hquit]
    refine .asks (by simpa [OnlyAsks, h] using hchanges) ?_ (calls_obey hchanges s)
    rcases ((obey command).run.run s).1 with _ | text <;> nofun
  · cases command with
    | create source => exact responds_of_create h s
    | recordOn path => exact responds_of_recordOn h s
    | recordOff =>
      rw [run_respond_of_command h nofun]
      exact .stops h
    | quit =>
      rw [respond, if_pos (isCommand_of_ofLine h), h]
      exact .quits h
    | _ => exact absurd rfl hchanges

/-! ## What is remembered -/

/-- The reply that a result is shown as. -/
def Reply.ofResult : Except String (Option String) → Reply
  | .ok none => .quit
  | .ok (some text) => .output text
  | .error text => .error text

/-- The text of a reply. -/
def Reply.text? : Reply → Option String
  | .output text | .error text => some text
  | .nothing | .quit => none

/-- The text of the digest that a line with such a reply was given for a program to store. -/
def created? : Except Command.Fault Command → Reply → Option String
  | .ok (.create _), .output hash => some hash
  | _, _ => none

theorem created?_of_asks (h : OnlyAsks line) (reply : Reply) :
    created? (Command.ofLine line) reply = none := by
  rcases hline : Command.ofLine line with _ | command
  · rfl
  · have hcommand := h command hline
    cases command <;> first | rfl | cases hcommand

namespace Responds

variable {r : Except String (Option String)}

/-- The digest that is remembered is told by the command and the result. -/
theorem lastHash_eq (h : Responds line s r t) : t.session.lastHash =
    (created? (Command.ofLine line) (.ofResult r)).or s.session.lastHash := by
  cases h with
  | quits h => rw [h]; rfl
  | records h => rw [h]; rfl
  | opensNot h => rw [h]; rfl
  | stops h => rw [h]; rfl
  | creates h => rw [h]; rfl
  | createsNot h ht => rw [h, ht.session_eq]; rfl
  | asks h _ ht => rw [created?_of_asks h, ht.session_eq]; rfl

end Responds

end Formulary.Prompt
