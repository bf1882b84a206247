import Formulary.Proofs.Token.Kinds

/-!
# Layouts of lexemes

A *lexeme* is what one token is written as: a delimiter, or a run of characters. A *layout* of
lexemes writes them one after the other with blanks wherever one likes, but at least one between two
runs. Every layout is read as the lexemes that it lays out, each of them as if it stood alone
(`map_kind_layout`).
-/

namespace Formulary.Token

open Text (isBlank)

/-- A maximal piece of a text that is a token and no delimiter. -/
def IsRun (lexeme : List Char) : Prop :=
  lexeme ≠ [] ∧ lexeme.all isRunChar

instance : DecidablePred IsRun := fun _ => inferInstanceAs (Decidable (_ ∧ _))

/-- What one token is written as. -/
def IsLexeme (lexeme : List Char) : Prop :=
  IsRun lexeme ∨ lexeme ∈ [['('], [')'], ['['], [']']]

instance : DecidablePred IsLexeme := fun _ => inferInstanceAs (Decidable (_ ∨ _))

/-- A lexeme with the gap in front of it. -/
structure Word where
  gap : List Char
  lexeme : List Char

/-- Words one after the other, and what follows the last of them. -/
def spell (words : List Word) (tail : List Char) : List Char :=
  match words with
  | [] => tail
  | word :: words => word.gap ++ (word.lexeme ++ spell words tail)

/-- A text that consists of lexemes and of gaps between them. Gaps are blank, and there is one
    wherever two runs would otherwise touch. -/
structure Layout where
  words : List Word
  tail : List Char
  isLexeme : ∀ word ∈ words, IsLexeme word.lexeme
  blank_gap : ∀ word ∈ words, word.gap.all isBlank
  blank_tail : tail.all isBlank
  apart : words.IsChain fun word next => IsRun word.lexeme → IsRun next.lexeme → next.gap ≠ []

namespace Layout

/-- The lexemes that a layout lays out. -/
def lexemes (layout : Layout) : List (List Char) :=
  layout.words.map Word.lexeme

/-- The text of a layout. -/
def text (layout : Layout) : String :=
  String.ofList (spell layout.words layout.tail)

end Layout

theorem isRunChar_of_isBlank {c : Char} (h : isBlank c) : isRunChar c = false := by
  simp [isRunChar, h]

/-- A lexeme that is no run is a delimiter, and a token by itself. -/
theorem isRun_or_of_isLexeme {lexeme : List Char} (h : IsLexeme lexeme) :
    IsRun lexeme ∨ ∃ c kind, lexeme = [c] ∧ isRunChar c = false ∧
      Kind.ofPiece? lexeme = some kind := by
  refine h.imp id fun hmem => ?_
  simp only [List.mem_cons, List.not_mem_nil, or_false] at hmem
  rcases hmem with rfl | rfl | rfl | rfl <;> exact ⟨_, _, rfl, by decide, rfl⟩

/-- A blank is no delimiter, so it is nothing by itself. -/
theorem ofPiece?_of_isBlank {c : Char} (h : isBlank c) : Kind.ofPiece? [c] = none := by
  have hc : ∀ d : Char, isBlank d = false → c ≠ d := by
    rintro d hd rfl
    exact Bool.false_ne_true (hd.symm.trans h)
  unfold Kind.ofPiece?
  split
  · exact absurd (by assumption) (by simpa using hc '(' (by decide))
  · exact absurd (by assumption) (by simpa using hc ')' (by decide))
  · exact absurd (by assumption) (by simpa using hc '[' (by decide))
  · exact absurd (by assumption) (by simpa using hc ']' (by decide))
  · simp [isRunChar_of_isBlank h]

/-- Blanks in front of a text are no tokens. -/
theorem kinds_blanks {gap : List Char} (h : gap.all isBlank) (rest : List Char) :
    kinds (gap ++ rest) = kinds rest := by
  induction gap with
  | nil => rfl
  | cons c gap ih =>
    rw [List.all_cons, Bool.and_eq_true] at h
    obtain ⟨hc, hgap⟩ := h
    rw [List.cons_append, kinds_of_not_run (isRunChar_of_isBlank hc), ofPiece?_of_isBlank hc]
    exact ih hgap

theorem kinds_eq_nil_of_blank {gap : List Char} (h : gap.all isBlank) : kinds gap = [] := by
  have hkinds := kinds_blanks h []
  rwa [List.append_nil, kinds_nil] at hkinds

theorem startsApart_of_blank {gap : List Char} (h : gap.all isBlank) : StartsApart gap :=
  fun c hc => isRunChar_of_isBlank (List.all_eq_true.1 h c (List.mem_of_mem_head? hc))

theorem StartsApart.append {gap rest : List Char} (h : StartsApart gap) (hne : gap ≠ []) :
    StartsApart (gap ++ rest) := by
  intro c hc
  rw [List.head?_append_of_ne_nil _ hne] at hc
  exact h c hc

/-- No run goes on into the words after it. -/
theorem startsApart_spell {words : List Word} {tail : List Char}
    (hlexeme : ∀ word ∈ words, IsLexeme word.lexeme)
    (hgap : ∀ word ∈ words, word.gap.all isBlank) (htail : tail.all isBlank)
    (hapart : ∀ word ∈ words.head?, IsRun word.lexeme → word.gap ≠ []) :
    StartsApart (spell words tail) := by
  cases words with
  | nil => exact startsApart_of_blank htail
  | cons word words =>
    by_cases hnil : word.gap = []
    · -- without a gap, the next lexeme is a delimiter
      rcases isRun_or_of_isLexeme (hlexeme word List.mem_cons_self) with
        hrun | ⟨c, -, hword, hc, -⟩
      · exact absurd hnil (hapart word rfl hrun)
      · rw [spell, hnil, hword]
        exact startsApart_cons.2 hc
    · exact (startsApart_of_blank (hgap word List.mem_cons_self)).append hnil

/-- A lexeme is one token of a text in which no run goes on after it. -/
theorem kinds_lexeme {lexeme rest : List Char} (h : IsLexeme lexeme)
    (hrest : IsRun lexeme → StartsApart rest) :
    ∃ kind, Kind.ofPiece? lexeme = some kind ∧ kinds (lexeme ++ rest) = kind :: kinds rest := by
  rcases isRun_or_of_isLexeme h with hrun | ⟨c, kind, rfl, hc, hkind⟩
  · have hall := List.all_eq_true.1 hrun.2
    exact ⟨_, ofPiece?_of_run hall, kinds_run hall hrun.1 (hrest hrun)⟩
  · refine ⟨kind, hkind, ?_⟩
    rw [List.singleton_append, kinds_of_not_run hc, hkind]
    rfl

theorem map_kinds_spell {words : List Word} {tail : List Char}
    (hlexeme : ∀ word ∈ words, IsLexeme word.lexeme)
    (hgap : ∀ word ∈ words, word.gap.all isBlank) (htail : tail.all isBlank)
    (hapart : words.IsChain fun word next =>
      IsRun word.lexeme → IsRun next.lexeme → next.gap ≠ []) :
    (kinds (spell words tail)).map some = words.map fun word => Kind.ofPiece? word.lexeme := by
  induction words with
  | nil =>
    rw [spell, kinds_eq_nil_of_blank htail]
    rfl
  | cons word words ih =>
    rw [List.isChain_cons] at hapart
    obtain ⟨hword, hlexeme⟩ := List.forall_mem_cons.1 hlexeme
    obtain ⟨hfirst, hgap⟩ := List.forall_mem_cons.1 hgap
    have hrest (hrun : IsRun word.lexeme) : StartsApart (spell words tail) :=
      startsApart_spell hlexeme hgap htail fun next hnext => hapart.1 next hnext hrun
    obtain ⟨kind, hkind, hkinds⟩ := kinds_lexeme hword hrest
    rw [spell, kinds_blanks hfirst, hkinds, List.map_cons, List.map_cons, hkind,
      ih hlexeme hgap hapart.2]

/-- A layout is read as its lexemes, one token each, as if each of them stood alone. -/
theorem map_kind_layout (layout : Layout) :
    ((tokenize layout.text).map kind).map some = layout.lexemes.map Kind.ofPiece? := by
  rw [map_kind_tokenize, Layout.text, String.toList_ofList, Layout.lexemes, List.map_map]
  exact map_kinds_spell layout.isLexeme layout.blank_gap layout.blank_tail layout.apart

end Formulary.Token
