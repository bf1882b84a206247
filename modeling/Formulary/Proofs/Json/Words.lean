import Formulary.Json.Scan
import Formulary.Json.Write
import Formulary.Proofs.Text.Decimal
import Formulary.Proofs.Text.Utf8
import Mathlib.Algebra.Group.Int.Defs
import Mathlib.Algebra.Group.Nat.Defs
import Mathlib.Data.List.TakeWhile

/-!
# Written words read back

Literal names and integers are words: runs of bytes that end before the next byte of another kind.
Such a run is scanned as one lexeme (`scanFrom_word`), and the word of an integer that fits a
machine word is the lexeme of this integer (`wordLexeme?_integer`).
-/

namespace Formulary.Json

/-! ## Runs -/

/-- No word goes on into these bytes. -/
def EndsWord (rest : Bytes) : Prop :=
  ∀ b ∈ rest.head?, isWordByte b = false

@[simp] theorem endsWord_nil : EndsWord [] := by simp [EndsWord]

@[simp] theorem endsWord_cons {b : UInt8} {rest : Bytes} :
    EndsWord (b :: rest) ↔ isWordByte b = false := by
  simp [EndsWord]

theorem isSpace_of_isWordByte {b : UInt8} (h : isWordByte b) :
    isSpace b = false ∧ b ≠ ascii '"' := by
  refine ⟨Bool.eq_false_iff.2 fun hspace => ?_, fun hquote => ?_⟩
  · simp only [isSpace, Bool.or_eq_true, decide_eq_true_eq, or_assoc] at hspace
    rcases hspace with rfl | rfl | rfl | rfl <;> exact absurd h (by decide)
  · subst hquote
    exact absurd h (by decide)

theorem scanFrom_gathered_word {word : Bytes} (hword : ∀ b ∈ word, isWordByte b)
    (gathered rest : Bytes) :
    scanFrom (.word gathered) (word ++ rest) =
      scanFrom (.word (word.reverse ++ gathered)) rest := by
  induction word generalizing gathered with
  | nil => rfl
  | cons b word ih =>
    obtain ⟨hb, hword⟩ := List.forall_mem_cons.1 hword
    rw [List.cons_append, scanFrom, if_pos hb, ih hword]
    simp

/-- Where a word ends, what follows is scanned as if it stood alone. -/
theorem scanFrom_word_end {gathered rest : Bytes} {l : Lexeme} (hrest : EndsWord rest)
    (hl : wordLexeme? gathered.reverse = some l) :
    scanFrom (.word gathered) rest = (scanFrom .nothing rest).map (l :: ·) := by
  cases rest with
  | nil => simp [scanFrom, hl]
  | cons b rest =>
    rw [endsWord_cons] at hrest
    rw [scanFrom, scanFrom, hrest, hl]
    simp only [Bool.false_eq_true, if_false, Option.bind_eq_bind, Option.bind_some]
    split_ifs
    · rfl
    · rfl
    · cases punctuation? b with
      | none => rfl
      | some m => simp only [Option.bind_some, Option.map_map]; rfl

/-- A word is scanned as one lexeme. -/
theorem scanFrom_word {word rest : Bytes} {l : Lexeme} (hword : ∀ b ∈ word, isWordByte b)
    (hne : word ≠ []) (hrest : EndsWord rest) (hl : wordLexeme? word = some l) :
    scanFrom .nothing (word ++ rest) = (scanFrom .nothing rest).map (l :: ·) := by
  obtain ⟨b, word, rfl⟩ := List.exists_cons_of_ne_nil hne
  obtain ⟨hb, hbs⟩ := List.forall_mem_cons.1 hword
  obtain ⟨hspace, hquote⟩ := isSpace_of_isWordByte hb
  rw [List.cons_append, scanFrom, hspace, if_neg Bool.false_ne_true, if_neg hquote, if_pos hb,
    scanFrom_gathered_word hbs, scanFrom_word_end hrest]
  simpa using hl

/-! ## Integers -/

/-- The integers that are read as integers. -/
def FitsWord (n : Int) : Prop :=
  -2 ^ 63 ≤ n ∧ n < 2 ^ 64

/-- A signed word is within these bounds. -/
theorem fitsWord_toInt (n : Int64) : FitsWord n.toInt := by
  have hmin : Int64.minValue.toInt = -2 ^ 63 := by decide
  have hmax : Int64.maxValue.toInt = 2 ^ 63 - 1 := by decide
  have hlow := Int64.minValue_le_toInt n
  have hhigh := Int64.toInt_le n
  exact ⟨by omega, by omega⟩

theorem splitDigits_of_isDigit {ds : List Char} (h : ∀ c ∈ ds, c.isDigit) :
    splitDigits ds = (ds, []) := by
  rw [splitDigits, List.takeWhile_eq_self_iff.2 h, List.dropWhile_eq_nil_iff.2 h]

/-- A numeral after a minus sign, or alone, is an integer if it fits a word. -/
theorem numberOfWord?_numeral {negative : Bool} {ds : List Char} (hds : Text.isNumeral ds)
    (hzero : ds.head? = some '0' → ds.length = 1)
    (hfits : if negative then 0 < Text.ofDigits ds ∧ Text.ofDigits ds ≤ Nat.pow 2 63
      else Text.ofDigits ds < Nat.pow 2 64) :
    numberOfWord? (if negative then '-' :: ds else ds) =
      some (some (.integer (Text.signed negative ds))) := by
  simp only [Text.isNumeral, Bool.and_eq_true, Bool.not_eq_eq_eq_not, Bool.not_true,
    List.all_eq_true] at hds
  obtain ⟨hempty, hall⟩ := hds
  have hsplit := splitDigits_of_isDigit hall
  have hfirst : (decide (ds.head? = some '0') && decide (ds.length ≠ 1)) = false := by
    simpa using hzero
  unfold numberOfWord?
  -- the digits are the whole word: no fraction and no exponent follow them
  cases negative with
  | true =>
    rw [if_pos rfl] at hfits ⊢
    simp only [hsplit, hempty, hfirst, fractionPart?, exponentPart?, Bool.or_false,
      Bool.false_eq_true, if_false, if_true, Option.bind_eq_bind, Option.bind_some,
      Option.isNone_none, Bool.and_self, Bool.true_and, decide_eq_true hfits]
  | false =>
    simp only [Bool.false_eq_true, if_false] at hfits ⊢
    split
    · exact absurd (hall '-' List.mem_cons_self) (by decide)
    · simp only [hsplit, hempty, hfirst, fractionPart?, exponentPart?, Bool.or_false,
        Bool.false_eq_true, if_false, if_true, Option.bind_eq_bind, Option.bind_some,
        Option.isNone_none, Bool.and_self, Bool.true_and, decide_eq_true hfits]

/-- A written integer is read as itself. -/
theorem numberOfWord?_toString {n : Int} (h : FitsWord n) :
    numberOfWord? (toString n).toList = some (some (.integer n)) := by
  obtain ⟨hlow, hhigh⟩ := h
  have hzero : (Nat.toDigits 10 n.natAbs).head? = some '0' →
      (Nat.toDigits 10 n.natAbs).length = 1 := by
    rcases Nat.eq_zero_or_pos n.natAbs with h | h
    · rw [h]
      decide
    · exact fun hhead => absurd hhead (Text.head?_toDigits_ne_zero h)
  have hword := @numberOfWord?_numeral (decide (n < 0)) _
    (Text.isNumeral_toDigits n.natAbs) hzero
    (by
      have h63 : Nat.pow 2 63 = 9223372036854775808 := rfl
      have h64 : Nat.pow 2 64 = 18446744073709551616 := rfl
      rw [Text.ofDigits_toDigits, h63, h64]
      split_ifs with hn <;> simp only [decide_eq_true_eq] at hn <;> omega)
  rw [Text.signed_toDigits] at hword
  rw [Text.toList_toString]
  simpa using hword

/-- An integer is written in digits, with a minus sign in front or without one. -/
theorem mem_toString {n : Int} {c : Char} (h : c ∈ (toString n).toList) :
    c = '-' ∨ c.isDigit := by
  rw [Text.toList_toString] at h
  split_ifs at h
  · exact (List.mem_cons.1 h).imp id Text.isDigit_of_mem_toDigits
  · exact .inr (Text.isDigit_of_mem_toDigits h)

theorem isWordByte_of_mem_toString {n : Int} {c : Char} (h : c ∈ (toString n).toList) :
    c.toNat < 128 ∧ isWordByte c.toUInt8 := by
  rcases mem_toString h with rfl | hdigit
  · decide
  · have digits : ∀ n < 58, 48 ≤ n → isWordByte (UInt8.ofNat n) := by decide
    obtain ⟨hlow, hhigh⟩ := Char.isDigit_iff_toNat.1 hdigit
    exact ⟨hhigh.trans_lt (by decide), digits c.toNat (Nat.lt_succ_of_le hhigh) hlow⟩

/-- The bytes of a written integer are one word. -/
theorem isWordByte_of_mem_ofText {n : Int} : ∀ b ∈ Bytes.ofText (toString n), isWordByte b := by
  intro b hb
  rw [Text.ofText_eq_flatMap, List.mem_flatMap] at hb
  obtain ⟨c, hc, hb⟩ := hb
  obtain ⟨hascii, hword⟩ := isWordByte_of_mem_toString hc
  rw [Text.utf8EncodeChar_of_ascii hascii, List.mem_singleton] at hb
  rwa [hb]

theorem wordLexeme?_integer {n : Int} (h : FitsWord n) :
    wordLexeme? (Bytes.ofText (toString n)) = some (.number (some (.integer n))) := by
  have hcs := Text.map_ofNat_ofText fun c (hc : c ∈ (toString n).toList) =>
    (isWordByte_of_mem_toString hc).1
  -- there are letters in a literal name
  have hname (name : String) (c : Char)
      (hc : c ∈ name.toList ∧ c ≠ '-' ∧ c.isDigit = false) : (toString n).toList ≠ name.toList := by
    intro heq
    rcases mem_toString (heq ▸ hc.1) with hminus | hdigit
    · exact hc.2.1 hminus
    · simp [hc.2.2] at hdigit
  simp only [wordLexeme?, hcs, hname "null" 'n' (by decide), hname "true" 't' (by decide),
    hname "false" 'f' (by decide), if_false, numberOfWord?_toString h, Option.map_some]

/-- A written integer is scanned as one lexeme. -/
theorem scanFrom_integer {n : Int} (h : FitsWord n) {rest : Bytes} (hrest : EndsWord rest) :
    scanFrom .nothing (Bytes.ofText (toString n) ++ rest) =
      (scanFrom .nothing rest).map (.number (some (.integer n)) :: ·) := by
  refine scanFrom_word isWordByte_of_mem_ofText ?_ hrest (wordLexeme?_integer h)
  -- the empty word is no lexeme
  intro hempty
  have hword := wordLexeme?_integer h
  rw [hempty, show wordLexeme? [] = none by decide] at hword
  exact Option.some_ne_none _ hword.symm

end Formulary.Json
