import Formulary.Text.Blank
import Mathlib.Data.List.SplitBy

/-!
# Trimmed texts and their words

What is left of a text without the blanks around it is the one part of it that has blanks on its two
sides only and neither starts nor ends with one (`toList_trim_eq_iff`). A text that is not blank has
a first word, up to the next blank (`FirstWord`), and its words are that one and those of what
follows (`FirstWord.words_eq`).
-/

namespace Formulary.Text

/-! ## Runs -/

section Runs

variable {p : Char → Bool} {c : Char} {run rest : List Char}

/-- A character that joins no run stands by itself. -/
theorem splitBy_of_not (h : p c = false) (rest : List Char) :
    (c :: rest).splitBy (fun c d => p c && p d) = [c] :: rest.splitBy fun c d => p c && p d := by
  rw [show c :: rest = [c] ++ rest from rfl, List.splitBy_append]
  · rfl
  · simp [h]

/-- A run goes on up to a character that joins none. -/
theorem splitBy_of_all (hrun : ∀ c ∈ run, p c) (hne : run ≠ [])
    (hrest : ∀ c ∈ rest.head?, p c = false) :
    (run ++ rest).splitBy (fun c d => p c && p d) =
      run :: rest.splitBy fun c d => p c && p d := by
  have hjoin : run.IsChain fun c d => p c && p d :=
    List.Pairwise.isChain <| List.pairwise_of_forall_mem_list fun c hc d hd => by
      simp [hrun c hc, hrun d hd]
  rw [List.splitBy_append, List.splitBy_of_isChain hne hjoin]
  · rfl
  · intro x _ y hy
    simp [hrest y hy]

end Runs

/-! ## Trimming -/

/-- `inner` stands in the characters with blanks on its two sides only, and has none at its ends. -/
structure Trims (cs inner : List Char) : Prop where
  exists_around : ∃ before after, before.all isBlank ∧ after.all isBlank ∧
    cs = before ++ (inner ++ after)
  isBlank_head : ∀ c ∈ inner.head?, isBlank c = false
  isBlank_last : ∀ c ∈ inner.getLast?, isBlank c = false

variable {cs inner word rest : List Char} {s : String}

/-- Blanks in front do not matter to what is left. -/
theorem trimStart_append (h : cs.all isBlank) (rest : List Char) :
    trimStart (cs ++ rest) = trimStart rest :=
  List.dropWhile_append_of_pos (List.all_eq_true.1 h)

theorem trimStart_of_head (h : ∀ c ∈ cs.head?, isBlank c = false) : trimStart cs = cs := by
  cases cs with
  | nil => rfl
  | cons c cs => simp [trimStart, h c rfl]

theorem trimStart_of_all (h : cs.all isBlank) : trimStart cs = [] := by
  rw [← List.append_nil cs, trimStart_append h]
  rfl

theorem trimEnd_append_of_all (h : rest.all isBlank) (cs : List Char) :
    trimEnd (cs ++ rest) = trimEnd cs := by
  have hall : rest.reverse.all isBlank := by rwa [List.all_reverse]
  have hstart := trimStart_append hall cs.reverse
  rw [trimStart, trimStart] at hstart
  rw [trimEnd, List.reverse_append, hstart, trimEnd]

theorem trimEnd_of_last (h : ∀ c ∈ cs.getLast?, isBlank c = false) : trimEnd cs = cs := by
  rw [← List.head?_reverse] at h
  have hstart := trimStart_of_head h
  rw [trimStart] at hstart
  rw [trimEnd, hstart, List.reverse_reverse]

/-- There is only one way to trim a text. -/
theorem Trims.eq (h : Trims cs inner) : inner = trimEnd (trimStart cs) := by
  obtain ⟨before, after, hbefore, hafter, rfl⟩ := h.exists_around
  rw [trimStart_append hbefore]
  cases inner with
  | nil => rw [List.nil_append, trimStart_of_all hafter]; rfl
  | cons c inner =>
    rw [trimStart_of_head (by simpa using h.isBlank_head), trimEnd_append_of_all hafter,
      trimEnd_of_last h.isBlank_last]

/-- The characters are those before the last that is no blank, and blanks. -/
theorem exists_trimEnd_append (cs : List Char) :
    ∃ after, after.all isBlank ∧ cs = trimEnd cs ++ after := by
  refine ⟨(cs.reverse.takeWhile isBlank).reverse, ?_, ?_⟩
  · rw [List.all_reverse, List.all_takeWhile]
  · rw [trimEnd, ← List.reverse_append, List.takeWhile_append_dropWhile, List.reverse_reverse]

theorem head?_trimStart (cs : List Char) : ∀ c ∈ (trimStart cs).head?, isBlank c = false := by
  intro c hc
  have hnot := List.head?_dropWhile_not isBlank cs
  rw [trimStart] at hc
  rw [Option.mem_def.1 hc] at hnot
  simpa using hnot

theorem getLast?_trimEnd (cs : List Char) : ∀ c ∈ (trimEnd cs).getLast?, isBlank c = false := by
  rw [trimEnd, List.getLast?_reverse]
  exact head?_trimStart cs.reverse

theorem head?_trimEnd (cs : List Char) : ∀ c ∈ (trimEnd cs).head?, c ∈ cs.head? := by
  intro c hc
  obtain ⟨after, -, h⟩ := exists_trimEnd_append cs
  have hhead := congrArg List.head? h
  rw [List.head?_append, Option.mem_def.1 hc] at hhead
  exact hhead

/-- And there is one. -/
theorem trims_trim (cs : List Char) : Trims cs (trimEnd (trimStart cs)) := by
  obtain ⟨after, hafter, hcs⟩ := exists_trimEnd_append (trimStart cs)
  refine ⟨⟨cs.takeWhile isBlank, after, List.all_takeWhile, hafter, ?_⟩, fun c hc => ?_,
    getLast?_trimEnd _⟩
  · rw [← hcs, trimStart, List.takeWhile_append_dropWhile]
  · exact head?_trimStart cs c (head?_trimEnd _ c hc)

/-- A text is trimmed to the part that has blanks on its two sides only, and none at its ends. -/
theorem toList_trim_eq_iff : (trim s).toList = inner ↔ Trims s.toList inner := by
  rw [trim, String.toList_ofList]
  constructor
  · rintro rfl
    exact trims_trim _
  · intro h
    exact h.eq.symm

/-- What stands in the part of a text without the blanks after it stands so in the text. -/
theorem Trims.of_trimEnd (h : Trims (trimEnd cs) inner) : Trims cs inner := by
  obtain ⟨before, after, hbefore, hafter, hcs⟩ := h.exists_around
  obtain ⟨blanks, hblanks, hend⟩ := exists_trimEnd_append cs
  refine ⟨⟨before, after ++ blanks, hbefore, ?_, ?_⟩, h.isBlank_head, h.isBlank_last⟩
  · rw [List.all_append, hafter, hblanks]
    rfl
  · rw [hend, hcs, List.append_assoc, List.append_assoc]

/-! ## Words -/

/-- `word` is the first word of the characters and `rest` what follows it. -/
structure FirstWord (cs word rest : List Char) : Prop where
  exists_before : ∃ before, before.all isBlank ∧ cs = before ++ (word ++ rest)
  ne_nil : word ≠ []
  isBlank_word : ∀ c ∈ word, isBlank c = false
  isBlank_rest : ∀ c ∈ rest.head?, isBlank c

theorem FirstWord.of_all {before : List Char} (hcs : cs = before ++ (word ++ rest))
    (hbefore : before.all isBlank) (hne : word ≠ []) (hword : word.all fun c => !isBlank c)
    (hrest : rest.head?.all isBlank) : FirstWord cs word rest :=
  ⟨⟨before, hbefore, hcs⟩, hne, fun c hc => by simpa using List.all_eq_true.1 hword c hc,
    fun _ hc => (Option.all_eq_true _ _).1 hrest _ hc⟩

theorem FirstWord.trimStart_eq (h : FirstWord cs word rest) : trimStart cs = word ++ rest := by
  obtain ⟨before, hbefore, rfl⟩ := h.exists_before
  obtain ⟨c, word, rfl⟩ := List.exists_cons_of_ne_nil h.ne_nil
  rw [trimStart_append hbefore, trimStart_of_head (by simpa using h.isBlank_word c (by simp))]

/-- Blanks at the end are no part of the first word. -/
theorem FirstWord.trimEnd_append (h : FirstWord cs word rest) :
    trimEnd (word ++ rest) = word ++ trimEnd rest := by
  obtain ⟨after, hafter, hrest⟩ := exists_trimEnd_append rest
  have hlast : ∀ c ∈ (word ++ trimEnd rest).getLast?, isBlank c = false := by
    intro c hc
    rw [List.getLast?_append, Option.mem_def, Option.or_eq_some_iff] at hc
    rcases hc with hc | ⟨-, hc⟩
    · exact getLast?_trimEnd rest c hc
    · exact h.isBlank_word c (List.mem_of_getLast? hc)
  rw [hrest, ← List.append_assoc, trimEnd_append_of_all hafter, trimEnd_of_last hlast, ← hrest]

/-- The first word goes on up to the first blank. -/
theorem FirstWord.takeWhile_eq (h : FirstWord cs word rest) {more : List Char}
    (hmore : ∀ c ∈ more.head?, c ∈ rest.head?) :
    (word ++ more).takeWhile (!isBlank ·) = word ∧
      (word ++ more).dropWhile (!isBlank ·) = more := by
  have hword : ∀ c ∈ word, (!isBlank c) = true := fun c hc => by simp [h.isBlank_word c hc]
  rw [List.takeWhile_append_of_pos hword, List.dropWhile_append_of_pos hword]
  cases more with
  | nil => simp
  | cons c more => simp [h.isBlank_rest c (hmore c rfl)]

/-- There is only one first word. -/
theorem FirstWord.eq {word' rest' : List Char} (h : FirstWord cs word rest)
    (h' : FirstWord cs word' rest') : word = word' ∧ rest = rest' := by
  obtain ⟨htake, hdrop⟩ := h.takeWhile_eq fun _ => id
  obtain ⟨htake', hdrop'⟩ := h'.takeWhile_eq fun _ => id
  rw [← h.trimStart_eq] at htake hdrop
  rw [← h'.trimStart_eq] at htake' hdrop'
  exact ⟨htake.symm.trans htake', hdrop.symm.trans hdrop'⟩

/-- A word is all that there is exactly if only blanks follow it. -/
theorem FirstWord.trims_iff (h : FirstWord cs word rest) : Trims cs word ↔ rest.all isBlank := by
  constructor
  · intro htrims
    have heq := htrims.eq
    rw [h.trimStart_eq, h.trimEnd_append, List.self_eq_append_right] at heq
    obtain ⟨after, hafter, hrest⟩ := exists_trimEnd_append rest
    rw [heq, List.nil_append] at hrest
    rwa [hrest]
  · intro hrest
    obtain ⟨before, hbefore, hcs⟩ := h.exists_before
    refine ⟨⟨before, rest, hbefore, hrest, hcs⟩, fun c hc => ?_, fun c hc => ?_⟩
    · exact h.isBlank_word c (List.mem_of_mem_head? hc)
    · exact h.isBlank_word c (List.mem_of_getLast? hc)

/-- Characters that are not all blank have a first word. -/
theorem exists_firstWord (h : cs.all isBlank = false) : ∃ word rest, FirstWord cs word rest := by
  refine ⟨(trimStart cs).takeWhile (!isBlank ·), (trimStart cs).dropWhile (!isBlank ·),
    ⟨cs.takeWhile isBlank, List.all_takeWhile, ?_⟩, ?_, fun c hc => ?_, fun c hc => ?_⟩
  · rw [List.takeWhile_append_dropWhile, trimStart, List.takeWhile_append_dropWhile]
  · rcases hcs : trimStart cs with _ | ⟨c, ds⟩
    · have hcover : cs.takeWhile isBlank ++ trimStart cs = cs := List.takeWhile_append_dropWhile
      rw [hcs, List.append_nil] at hcover
      have hall : cs.all isBlank := by
        rw [← hcover]
        exact List.all_takeWhile
      rw [hall] at h
      cases h
    · have hc : isBlank c = false := head?_trimStart cs c (by rw [hcs]; rfl)
      simp [hc]
  · simpa using List.all_eq_true.1 (List.all_takeWhile (p := (!isBlank ·))) c hc
  · have hnot := List.head?_dropWhile_not (!isBlank ·) (trimStart cs)
    rw [Option.mem_def.1 hc] at hnot
    simpa using hnot

theorem words_append_of_all (h : cs.all isBlank) (rest : List Char) :
    words (cs ++ rest) = words rest := by
  induction cs with
  | nil => rfl
  | cons c cs ih =>
    rw [List.all_cons, Bool.and_eq_true] at h
    have hnot : (!isBlank c) = false := by simp [h.1]
    rw [List.cons_append, words, splitBy_of_not (p := (!isBlank ·)) hnot,
      List.filter_cons_of_neg (by simp [h.1])]
    exact ih h.2

/-- There are no words in a text of blanks. -/
theorem words_of_all (h : cs.all isBlank) : words cs = [] := by
  rw [← List.append_nil cs, words_append_of_all h]
  rfl

/-- The words are the first one and those of what follows it. -/
theorem FirstWord.words_eq (h : FirstWord cs word rest) : words cs = word :: words rest := by
  obtain ⟨before, hbefore, rfl⟩ := h.exists_before
  rw [words_append_of_all hbefore, words,
    splitBy_of_all (p := (!isBlank ·)) (fun c hc => by simp [h.isBlank_word c hc]) h.ne_nil
      (fun c hc => by simp [h.isBlank_rest c hc]),
    List.filter_cons_of_pos (by simpa using h.isBlank_word)]
  rfl

theorem FirstWord.append {after : List Char} (h : FirstWord cs word rest)
    (hafter : after.all isBlank) : FirstWord (cs ++ after) word (rest ++ after) := by
  obtain ⟨before, hbefore, rfl⟩ := h.exists_before
  refine ⟨⟨before, hbefore, by simp⟩, h.ne_nil, h.isBlank_word, fun c hc => ?_⟩
  rw [List.head?_append, Option.mem_def, Option.or_eq_some_iff] at hc
  rcases hc with hc | ⟨-, hc⟩
  · exact h.isBlank_rest c hc
  · exact List.all_eq_true.1 hafter c (List.mem_of_mem_head? hc)

/-- What comes after the first word is shorter, so taking one word after another ends. -/
theorem FirstWord.length_lt (h : FirstWord cs word rest) : rest.length < cs.length := by
  obtain ⟨before, -, rfl⟩ := h.exists_before
  have hword := List.length_pos_iff.2 h.ne_nil
  simp only [List.length_append]
  omega

/-- Blanks at the end change no word. -/
theorem words_append_blanks {after : List Char} (hafter : after.all isBlank) (cs : List Char) :
    words (cs ++ after) = words cs := by
  induction hn : cs.length using Nat.strong_induction_on generalizing cs with
  | h n ih =>
    rcases hblank : cs.all isBlank with _ | _
    · obtain ⟨word, rest, hfirst⟩ := exists_firstWord hblank
      rw [(hfirst.append hafter).words_eq, hfirst.words_eq,
        ih rest.length (hn ▸ hfirst.length_lt) rest rfl]
    · rw [words_of_all hblank, words_append_of_all hblank, words_of_all hafter]

theorem Trims.words_eq (h : Trims cs inner) : words inner = words cs := by
  obtain ⟨before, after, hbefore, hafter, rfl⟩ := h.exists_around
  rw [words_append_of_all hbefore, words_append_blanks hafter]

/-- The words are the first one and those of the rest. -/
theorem words_eq_cons_iff {others : List (List Char)} :
    words cs = word :: others ↔ ∃ rest, FirstWord cs word rest ∧ words rest = others := by
  constructor
  · intro h
    rcases hblank : cs.all isBlank with _ | _
    · obtain ⟨first, rest, hfirst⟩ := exists_firstWord hblank
      rw [hfirst.words_eq] at h
      obtain ⟨rfl, hrest⟩ := List.cons.inj h
      exact ⟨rest, hfirst, hrest⟩
    · rw [words_of_all hblank] at h
      cases h
  · rintro ⟨rest, hfirst, rfl⟩
    exact hfirst.words_eq

end Formulary.Text
