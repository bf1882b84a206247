import Formulary.Proofs.Text.Decimal
import Formulary.Proofs.Text.Words
import Formulary.Token

/-!
# The kinds of the tokens of a text

What the tokens of a text are does not hang on where they stand, so it can be told piece by piece
from the characters (`kinds`, `map_kind_tokenize`): a blank is nothing, a delimiter is a token by
itself, and a run up to the next blank or delimiter is one token (`kinds_run`).

* `kinds_symbol`, `kinds_integer`: a symbol and a written integer are one token of a text, unless
  they touch a further run;
* `isSymbol_of_mem_kinds`: every symbol of a text is one standing alone.
-/

namespace Formulary.Token

open Text (isBlank)

/-- The kinds of the tokens of some characters. -/
def kinds (cs : List Char) : List Kind :=
  (pieces cs).filterMap Kind.ofPiece?

/-- Places have nothing to do with kinds. -/
theorem map_kind_located (p : Place) (ps : List (List Char)) :
    (located p ps).1.map (·.1.kind) = ps.filterMap Kind.ofPiece? := by
  induction ps generalizing p with
  | nil => rfl
  | cons piece rest ih =>
    rw [located]
    cases hk : Kind.ofPiece? piece with
    | none => simp only [List.filterMap_cons_none hk, ih]
    | some kind => simp only [List.filterMap_cons_some hk, List.map_cons, ih]

/-- The kinds of the tokens are those of the text. -/
theorem map_kind_tokenize (source : String) : (tokenize source).map kind = kinds source.toList := by
  rw [tokenize, List.map_map]
  exact map_kind_located _ _

/-! ## Pieces -/

/-- No run goes on into these characters. -/
def StartsApart (cs : List Char) : Prop :=
  ∀ c ∈ cs.head?, isRunChar c = false

@[simp] theorem startsApart_nil : StartsApart [] := by simp [StartsApart]

@[simp] theorem startsApart_cons {c : Char} {cs : List Char} :
    StartsApart (c :: cs) ↔ isRunChar c = false := by
  simp [StartsApart]

/-- What does not belong to a run is a piece for itself. -/
theorem pieces_of_not_run {c : Char} (h : isRunChar c = false) (rest : List Char) :
    pieces (c :: rest) = [c] :: pieces rest :=
  Text.splitBy_of_not h rest

/-- A run is a piece as a whole, if it is not gone on with. -/
theorem pieces_of_run {run : List Char} (hrun : ∀ c ∈ run, isRunChar c) (hne : run ≠ [])
    {rest : List Char} (hrest : StartsApart rest) : pieces (run ++ rest) = run :: pieces rest :=
  Text.splitBy_of_all hrun hne hrest

@[simp] theorem kinds_nil : kinds [] = [] := rfl

/-- A character that is no run character is a piece by itself. -/
theorem kinds_of_not_run {c : Char} (h : isRunChar c = false) (rest : List Char) :
    kinds (c :: rest) = (Kind.ofPiece? [c]).toList ++ kinds rest := by
  rw [kinds, pieces_of_not_run h, kinds]
  cases hk : Kind.ofPiece? [c] with
  | none => rw [List.filterMap_cons_none hk]; rfl
  | some kind => rw [List.filterMap_cons_some hk]; rfl

@[simp] theorem kinds_space (rest : List Char) : kinds (' ' :: rest) = kinds rest :=
  kinds_of_not_run (by decide) rest

@[simp] theorem kinds_openParen (rest : List Char) :
    kinds ('(' :: rest) = .openParen :: kinds rest :=
  kinds_of_not_run (by decide) rest

@[simp] theorem kinds_closeParen (rest : List Char) :
    kinds (')' :: rest) = .closeParen :: kinds rest :=
  kinds_of_not_run (by decide) rest

@[simp] theorem kinds_openBracket (rest : List Char) :
    kinds ('[' :: rest) = .openBracket :: kinds rest :=
  kinds_of_not_run (by decide) rest

@[simp] theorem kinds_closeBracket (rest : List Char) :
    kinds (']' :: rest) = .closeBracket :: kinds rest :=
  kinds_of_not_run (by decide) rest

/-- A piece of run characters is read as a run. -/
theorem ofPiece?_of_run {run : List Char} (hrun : ∀ c ∈ run, isRunChar c) :
    Kind.ofPiece? run = some (Kind.ofRun run) := by
  unfold Kind.ofPiece?
  split
  · exact absurd (hrun '(' (by simp)) (by decide)
  · exact absurd (hrun ')' (by simp)) (by decide)
  · exact absurd (hrun '[' (by simp)) (by decide)
  · exact absurd (hrun ']' (by simp)) (by decide)
  · rw [if_pos (List.all_eq_true.2 hrun)]

/-- A run up to where no run goes on is one token. -/
theorem kinds_run {run : List Char} (hrun : ∀ c ∈ run, isRunChar c) (hne : run ≠ [])
    {rest : List Char} (hrest : StartsApart rest) :
    kinds (run ++ rest) = Kind.ofRun run :: kinds rest := by
  rw [kinds, pieces_of_run hrun hne hrest, List.filterMap_cons_some (ofPiece?_of_run hrun)]
  rfl

/-! ## Symbols and integers -/

/-- Whether no range of `r` meets one of `s`. -/
def apart (r s : Text.Ranges) : Bool :=
  r.all fun x => s.all fun y => Nat.blt x.2 y.1 || Nat.blt y.2 x.1

/-- A character that is in one of two tables that are apart is not in the other. -/
theorem covers_of_apart {r s : Text.Ranges} (h : apart r s) {c : Char} (hr : r.covers c) :
    s.covers c = false := by
  rw [Bool.eq_false_iff]
  intro hs
  obtain ⟨x, hx, hxl, hxh⟩ := Text.Ranges.covers_iff.1 hr
  obtain ⟨y, hy, hyl, hyh⟩ := Text.Ranges.covers_iff.1 hs
  have hxy := List.all_eq_true.1 (List.all_eq_true.1 h x hx) y hy
  simp only [Bool.or_eq_true, Nat.blt_eq] at hxy
  omega

/-- The code points of blanks and delimiters. -/
def separators : Text.Ranges :=
  Text.blanks ++ [(0x28, 0x29), (0x5b, 0x5b), (0x5d, 0x5d)]

/-- What ends a run is a blank or a delimiter. -/
theorem covers_separators {c : Char} (h : isRunChar c = false) : separators.covers c := by
  rw [isRunChar, Bool.and_eq_false_iff, Bool.not_eq_false', Bool.not_eq_false'] at h
  rcases h with hblank | hdelimiter
  · rw [separators, Text.Ranges.covers, List.any_append, Bool.or_eq_true]
    exact .inl hblank
  · simp only [isDelimiter, Bool.or_eq_true, decide_eq_true_eq, or_assoc] at hdelimiter
    rcases hdelimiter with rfl | rfl | rfl | rfl <;> decide

-- the table of letters and numbers has some eight hundred ranges
set_option maxRecDepth 20000 in
theorem apart_separators : apart Text.lettersAndNumbers separators := by decide

/-- Letters and numbers belong to runs: no range of theirs meets one of the separators. There are
    too many characters to try each. -/
theorem isRunChar_of_isAlphanumeric {c : Char} (h : Text.isAlphanumeric c) : isRunChar c := by
  rw [← Bool.not_eq_false]
  intro hc
  have hcovers := covers_separators hc
  rw [covers_of_apart apart_separators h] at hcovers
  exact Bool.false_ne_true hcovers

/-- A symbol stands in one run. -/
theorem isRunChar_of_isSymbolChar {c : Char} (h : isSymbolChar c) : isRunChar c := by
  rw [isSymbolChar, Bool.or_eq_true] at h
  rcases h with h | h
  · exact isRunChar_of_isAlphanumeric h
  · have hall : symbolPunctuation.all isRunChar = true := by decide
    exact List.all_eq_true.1 hall c (List.contains_iff_mem.1 h)

theorem isRunChar_of_isDigit {c : Char} (h : c.isDigit) : isRunChar c := by
  apply isRunChar_of_isSymbolChar
  rw [isSymbolChar, Text.isAlphanumeric_of_isAlphanum (by simp [Char.isAlphanum, h])]
  rfl

/-- A run is no symbol but the one that it spells. -/
theorem eq_of_ofRun_symbol {run : List Char} {name : String} (h : Kind.ofRun run = .symbol name) :
    name = String.ofList run ∧ ∀ c ∈ run, isSymbolChar c := by
  simp only [Kind.ofRun] at h
  split_ifs at h with hn hs
  · split at h <;> cases h
  · rw [Bool.and_eq_true, List.all_eq_true] at hs
    exact ⟨(Kind.symbol.inj h).symm, hs.2⟩

/-- A symbol is what is read as itself where it makes up a run. -/
theorem isSymbol_iff {name : String} :
    isSymbol name ↔ name.toList ≠ [] ∧ Kind.ofRun name.toList = .symbol name := by
  simp [isSymbol]

/-- A symbol is one token of a text, unless it touches a further run. -/
theorem kinds_symbol {name : String} (h : isSymbol name) {rest : List Char}
    (hrest : StartsApart rest) : kinds (name.toList ++ rest) = .symbol name :: kinds rest := by
  obtain ⟨hne, hrun⟩ := isSymbol_iff.1 h
  obtain ⟨-, hall⟩ := eq_of_ofRun_symbol hrun
  rw [kinds_run (fun c hc => isRunChar_of_isSymbolChar (hall c hc)) hne hrest, hrun]

/-- Every symbol of a text is one standing alone. -/
theorem isSymbol_of_mem_kinds {cs : List Char} {name : String} (h : .symbol name ∈ kinds cs) :
    isSymbol name := by
  obtain ⟨piece, hpiece, hkind⟩ := List.mem_filterMap.1 h
  have hne : piece ≠ [] := List.ne_nil_of_mem_splitBy hpiece
  unfold Kind.ofPiece? at hkind
  split at hkind
  iterate 4 simp at hkind
  split_ifs at hkind
  obtain ⟨rfl, -⟩ := eq_of_ofRun_symbol (Option.some.inj hkind)
  rw [isSymbol_iff, String.toList_ofList]
  exact ⟨hne, Option.some.inj hkind⟩

/-- An integer is read from what it is written as. -/
theorem ofRun_toString (n : Int64) : Kind.ofRun (toString n.toInt).toList = .integer n := by
  rw [Kind.ofRun]
  rw [Text.splitSign_toString]
  simp only [Text.isNumeral_toDigits, if_true, Text.signed_toDigits, Text.int64?_toInt]

/-- An integer in decimal is one token of a text, unless it touches a further run. -/
theorem kinds_integer (n : Int64) {rest : List Char} (hrest : StartsApart rest) :
    kinds ((toString n.toInt).toList ++ rest) = .integer n :: kinds rest := by
  have hdigits : ∀ c ∈ Nat.toDigits 10 n.toInt.natAbs, isRunChar c :=
    fun c hc => isRunChar_of_isDigit (Text.isDigit_of_mem_toDigits hc)
  have hrun : ∀ c ∈ (toString n.toInt).toList, isRunChar c := by
    rw [Text.toList_toString]
    split_ifs
    · exact List.forall_mem_cons.2 ⟨by decide, hdigits⟩
    · exact hdigits
  have hne : (toString n.toInt).toList ≠ [] := by
    rw [Text.toList_toString]
    split_ifs <;> simp [Nat.toDigits_ne_nil]
  rw [kinds_run hrun hne hrest, ofRun_toString]

end Formulary.Token
