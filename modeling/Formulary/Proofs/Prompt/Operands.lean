import Formulary.Prompt.Command
import Formulary.Proofs.Text.Words
import Mathlib.Tactic.Tauto

/-!
# What stands after a command

A command has to do with all that follows its word, without the blanks around it and with those in
it as they are (`Follows`). Recording is the exception: the path is the first word after `on`, and
whatever comes after that is dropped.

* `operand_of_line`: which lines are commands that have to do with a text, and what the text is.
-/

namespace Formulary.Prompt.Command

open Text (trim FirstWord Trims isBlank)

variable {line word x : String} {cs rest more dropped : List Char}

/-- `x` is all that follows the first word of the characters, without the blanks around it. -/
def Follows (cs : List Char) (word x : String) : Prop :=
  ∃ rest, FirstWord cs word.toList rest ∧ Trims rest x.toList

/-! ## The word of a command -/

theorem split_of_firstWord (h : FirstWord line.toList cs rest) :
    split line = (String.ofList cs, trim (String.ofList rest)) := by
  have htrim : (trim line).toList = cs ++ Text.trimEnd rest := by
    rw [trim, String.toList_ofList, h.trimStart_eq, h.trimEnd_append]
  obtain ⟨htake, hdrop⟩ := h.takeWhile_eq (Text.head?_trimEnd rest)
  have hrest : trim (String.ofList (Text.trimEnd rest)) = trim (String.ofList rest) := by
    have htrims := (Text.trims_trim (Text.trimEnd rest)).of_trimEnd
    simp only [trim, String.toList_ofList, htrims.eq]
  rw [split, htrim, htake, hdrop, hrest]

theorem split_of_all (h : line.toList.all isBlank) : split line = ("", "") := by
  have htrim : (trim line).toList = [] := by
    rw [trim, String.toList_ofList, Text.trimStart_of_all h]
    rfl
  rw [split, htrim]
  rfl

/-- The command of a line is its first word, unless the line is blank. -/
theorem split_eq_iff (hword : word ≠ "") :
    split line = (word, x) ↔ Follows line.toList word x := by
  constructor
  · intro h
    rcases hblank : line.toList.all isBlank with _ | _
    · obtain ⟨cs, rest, hfirst⟩ := Text.exists_firstWord hblank
      rw [split_of_firstWord hfirst] at h
      obtain ⟨rfl, rfl⟩ := Prod.mk.inj h
      refine ⟨rest, by rwa [String.toList_ofList], ?_⟩
      have htrims := Text.trims_trim rest
      rwa [trim, String.toList_ofList, String.toList_ofList]
    · rw [split_of_all hblank] at h
      exact absurd (Prod.mk.inj h).1.symm hword
  · rintro ⟨rest, hfirst, htrims⟩
    have hx : trim (String.ofList rest) = x := by
      rw [← String.toList_inj, Text.toList_trim_eq_iff, String.toList_ofList]
      exact htrims
    rw [split_of_firstWord hfirst, hx, String.ofList_toList]

theorem unlessEmpty_eq_some_iff {s : String} : unlessEmpty s = some x ↔ s = x ∧ x ≠ "" := by
  rw [unlessEmpty]
  split_ifs with h
  · simp [h, eq_comm]
  · constructor
    · intro hx
      obtain rfl := Option.some.inj hx
      exact ⟨rfl, h⟩
    · rintro ⟨rfl, -⟩
      rfl

/-- The commands that the first word of a line and what follows it come to. -/
inductive Denotes (word rest : String) : Command → Prop
  | create {source : String} (hword : word = ":create")
      (hrest : unlessEmpty rest = some source) : Denotes word rest (.create source)
  | get {hash : Option String} (hword : word = ":get") (hrest : unlessEmpty rest = hash) :
      Denotes word rest (.get hash)
  | wait {hash : Option String} (hword : word = ":wait") (hrest : unlessEmpty rest = hash) :
      Denotes word rest (.wait hash)
  | list (hword : word = ":list") : Denotes word rest .list
  | recordOn {path : String} (hword : word = ":record")
      (hwords : ∃ others, Text.words rest.toList = "on".toList :: path.toList :: others) :
      Denotes word rest (.recordOn path)
  | recordOff (hword : word = ":record") (hwords : Text.words rest.toList = ["off".toList]) :
      Denotes word rest .recordOff
  | help (hword : word = ":help") : Denotes word rest .help
  | quit (hword : word = ":quit" ∨ word = ":q") : Denotes word rest .quit

theorem denotes_of_ofRecord {rest : String} {command : Command}
    (h : ofRecord rest = .ok command) : Denotes ":record" rest command := by
  rw [ofRecord] at h
  split at h
  case h_1 path others hwords =>
    obtain rfl := Except.ok.inj h
    obtain ⟨on, paths, hrest, hon, hpaths⟩ := List.map_eq_cons_iff.1 hwords
    obtain ⟨path, others, rfl, rfl, -⟩ := List.map_eq_cons_iff.1 hpaths
    rw [← String.toList_inj, String.toList_ofList] at hon
    subst hon
    exact .recordOn rfl ⟨others, by simpa using hrest⟩
  case h_2 hwords =>
    obtain rfl := Except.ok.inj h
    obtain ⟨off, hrest, hoff⟩ := List.map_eq_singleton_iff.1 hwords
    rw [← String.toList_inj, String.toList_ofList] at hoff
    exact .recordOff rfl (hrest.trans (by rw [hoff]))
  case h_3 => cases h

theorem denotes_of_ofLine {rest : String} {command : Command} (hsplit : split line = (word, rest))
    (h : ofLine line = .ok command) : Denotes word rest command := by
  rw [ofLine, hsplit] at h
  dsimp only at h
  -- one case for each word that is a command, and a last one for those that are none
  split at h
  case h_1 =>
    split at h
    case h_1 source hsource => exact Except.ok.inj h ▸ .create rfl hsource
    case h_2 => cases h
  case h_2 => exact Except.ok.inj h ▸ .get rfl rfl
  case h_3 => exact Except.ok.inj h ▸ .wait rfl rfl
  case h_4 => exact Except.ok.inj h ▸ .list rfl
  case h_5 => exact denotes_of_ofRecord h
  case h_6 => exact Except.ok.inj h ▸ .help rfl
  case h_7 => exact Except.ok.inj h ▸ .quit (.inl rfl)
  case h_8 => exact Except.ok.inj h ▸ .quit (.inr rfl)
  case h_9 => cases h

theorem Denotes.ofLine_eq {rest : String} {command : Command} (h : Denotes word rest command)
    (hsplit : split line = (word, rest)) : ofLine line = .ok command := by
  rw [ofLine, hsplit]
  dsimp only
  cases h with
  | create hword hrest | get hword hrest | wait hword hrest =>
    subst hword
    rw [hrest]
    rfl
  | list hword | help hword =>
    subst hword
    rfl
  | recordOn hword hwords =>
    obtain ⟨others, hwords⟩ := hwords
    subst hword
    rw [ofRecord, hwords]
    simp
  | recordOff hword hwords =>
    subst hword
    rw [ofRecord, hwords]
    simp
  | quit hword => rcases hword with rfl | rfl <;> rfl

/-- A line is what its first word and what follows it come to. -/
theorem ofLine_eq_ok_iff {rest : String} {command : Command} (h : split line = (word, rest)) :
    ofLine line = .ok command ↔ Denotes word rest command :=
  ⟨denotes_of_ofLine h, fun hdenotes => hdenotes.ofLine_eq h⟩

/-! ## What a command has to do with -/

/-- What follows the word of a command, if it is not empty. -/
theorem follows_iff {rest : String} (h : split line = (word, rest)) {command : String}
    (hcommand : command ≠ "") :
    x ≠ "" ∧ Follows line.toList command x ↔ word = command ∧ unlessEmpty rest = some x := by
  rw [← split_eq_iff hcommand, h, Prod.mk.injEq, unlessEmpty_eq_some_iff]
  tauto

/-- The words after the word of a command, as they stand in the line. -/
theorem words_iff {rest : String} (h : split line = (":record", rest)) {first second : List Char} :
    (∃ others, Text.words rest.toList = first :: second :: others) ↔ ∃ rest more dropped,
      FirstWord line.toList ":record".toList rest ∧ FirstWord rest first more ∧
        FirstWord more second dropped := by
  obtain ⟨follows, hfirst, htrims⟩ := (split_eq_iff (by decide)).1 h
  simp only [htrims.words_eq, Text.words_eq_cons_iff]
  constructor
  · rintro ⟨others, more, hmore, dropped, hdropped, -⟩
    exact ⟨follows, more, dropped, hfirst, hmore, hdropped⟩
  · rintro ⟨rest, more, dropped, hrest, hmore, hdropped⟩
    obtain ⟨-, rfl⟩ := hfirst.eq hrest
    exact ⟨Text.words dropped, more, hmore, dropped, hdropped, rfl⟩

/-- What is recorded in is named by the first word after `on`. -/
theorem ofLine_eq_recordOn_iff :
    ofLine line = .ok (.recordOn x) ↔ ∃ rest more dropped,
      FirstWord line.toList ":record".toList rest ∧ FirstWord rest "on".toList more ∧
        FirstWord more x.toList dropped := by
  rcases hsplit : split line with ⟨word, rest⟩
  rw [ofLine_eq_ok_iff hsplit]
  constructor
  · intro h
    cases h with
    | recordOn hword hwords =>
      subst hword
      exact (words_iff hsplit).1 hwords
  · rintro ⟨rest', more, dropped, hrest, hmore, hdropped⟩
    have hword := congrArg Prod.fst (hsplit.symm.trans (split_of_firstWord hrest))
    rw [String.ofList_toList] at hword
    dsimp only at hword
    subst hword
    exact .recordOn rfl ((words_iff hsplit).2 ⟨rest', more, dropped, hrest, hmore, hdropped⟩)

/-- Creating, getting and waiting have to do with all that follows the word of the command, blanks
    around it aside, which is something. Recording has to do with the first word after `on`, which
    is all that follows it exactly if there are only blanks after it. -/
theorem operand_of_line (line x : String) :
    (ofLine line = .ok (.create x) ↔ x ≠ "" ∧ Follows line.toList ":create" x) ∧
    (ofLine line = .ok (.get (some x)) ↔ x ≠ "" ∧ Follows line.toList ":get" x) ∧
    (ofLine line = .ok (.wait (some x)) ↔ x ≠ "" ∧ Follows line.toList ":wait" x) ∧
    (ofLine line = .ok (.recordOn x) ↔ x ≠ "" ∧ ∃ rest more dropped,
      FirstWord line.toList ":record".toList rest ∧ FirstWord rest "on".toList more ∧
        FirstWord more x.toList dropped ∧ (Trims more x.toList ↔ dropped.all isBlank)) := by
  rcases hsplit : split line with ⟨word, rest⟩
  rw [follows_iff hsplit (by decide), follows_iff hsplit (by decide),
    follows_iff hsplit (by decide), ofLine_eq_recordOn_iff]
  simp only [ofLine_eq_ok_iff hsplit]
  refine ⟨⟨fun h => ?_, fun ⟨hword, hrest⟩ => .create hword hrest⟩,
    ⟨fun h => ?_, fun ⟨hword, hrest⟩ => .get hword hrest⟩,
    ⟨fun h => ?_, fun ⟨hword, hrest⟩ => .wait hword hrest⟩, ?_, ?_⟩
  · cases h with
    | create hword hrest => exact ⟨hword, hrest⟩
  · cases h with
    | get hword hrest => exact ⟨hword, hrest⟩
  · cases h with
    | wait hword hrest => exact ⟨hword, hrest⟩
  · rintro ⟨rest, more, dropped, hrest, hmore, hdropped⟩
    have hne : x ≠ "" := fun hx => hdropped.ne_nil (by rw [hx]; rfl)
    exact ⟨hne, rest, more, dropped, hrest, hmore, hdropped, hdropped.trims_iff⟩
  · rintro ⟨-, rest, more, dropped, hrest, hmore, hdropped, -⟩
    exact ⟨rest, more, dropped, hrest, hmore, hdropped⟩

/-- Of two words after `on` the second one is dropped. -/
theorem path_cut_at_blank :
    let line := ":record on a b"
    ofLine line = .ok (.recordOn "a") ∧
      FirstWord line.toList ":record".toList " on a b".toList ∧
      FirstWord " on a b".toList "on".toList " a b".toList ∧
      Trims " a b".toList "a b".toList ∧ ¬Trims " a b".toList "a".toList := by
  intro line
  have hcommand : FirstWord line.toList ":record".toList " on a b".toList :=
    @FirstWord.of_all _ _ _ [] (by decide) rfl (by decide) (by decide) (by decide)
  have hword : FirstWord " on a b".toList "on".toList " a b".toList :=
    @FirstWord.of_all _ _ _ [' '] (by decide) (by decide) (by decide) (by decide) (by decide)
  have hremainder : Trims " a b".toList "a b".toList := Text.toList_trim_eq_iff.1 (by decide)
  refine ⟨by decide +kernel, hcommand, hword, hremainder, fun h => ?_⟩
  exact absurd h.eq (by decide)

end Formulary.Prompt.Command
