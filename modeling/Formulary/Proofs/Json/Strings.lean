import Formulary.Json.Scan
import Formulary.Json.Write
import Formulary.Proofs.Text.Utf8

/-!
# Written strings read back

A character in a string is written as itself in UTF-8, as a short escape or by its code
(`bytes_escapeChar`). Each of the three ways is undone by what reads the units of a string and turns
them into bytes again (`exists_units_escape`), and none of them ends the string before its closing
quote (`scanFrom_escape`).

* `scanFrom_writeString`: a written string is scanned as one lexeme that denotes it.
-/

namespace Formulary.Json

open String (utf8EncodeChar)

/-- The bytes that a character is written as in a string. -/
def escapedBytes (c : Char) : Bytes :=
  (escapeChar c).flatMap utf8EncodeChar

/-- The characters that a backslash stands before, each with what is written for it. -/
def shortEscapes : List (Char × Char) :=
  [('"', '"'), ('\\', '\\'), ('\x08', 'b'), ('\x0c', 'f'), ('\n', 'n'), ('\r', 'r'), ('\t', 't')]

theorem escapedBytes_of_mem_shortEscapes : ∀ p ∈ shortEscapes,
    escapedBytes p.1 = [ascii '\\', ascii p.2] ∧ ascii p.2 ≠ ascii 'u' ∧
      shortEscape? (ascii p.2) = some p.1.toUInt8 ∧ p.1.toNat < 128 := by
  decide

theorem escapeChar_of_not_mem {c : Char} (h : c ∉ shortEscapes.map Prod.fst) :
    escapeChar c = if c.toNat < 32 then
      ['\\', 'u', '0', '0', Nat.digitChar (c.toNat / 16), Nat.digitChar (c.toNat % 16)]
      else [c] := by
  simp only [shortEscapes, List.map_cons, List.map_nil, List.mem_cons, List.not_mem_nil, or_false,
    not_or] at h
  obtain ⟨h₁, h₂, h₃, h₄, h₅, h₆, h₇⟩ := h
  rw [escapeChar, if_neg h₁, if_neg h₂, if_neg h₃, if_neg h₄, if_neg h₅, if_neg h₆, if_neg h₇]

/-- The two digits of a code below 32 denote it, and none of them ends a string. -/
theorem fourDigits?_code : ∀ n : Fin 32,
    [Nat.digitChar (n / 16), Nat.digitChar (n % 16)].flatMap utf8EncodeChar =
      [(Nat.digitChar (n / 16)).toUInt8, (Nat.digitChar (n % 16)).toUInt8] ∧
    fourDigits? (ascii '0') (ascii '0') (Nat.digitChar (n / 16)).toUInt8
      (Nat.digitChar (n % 16)).toUInt8 = some n.val ∧
    [ascii 'u', ascii '0', ascii '0', (Nat.digitChar (n / 16)).toUInt8,
      (Nat.digitChar (n % 16)).toUInt8].all (fun b => b ≠ ascii '"' ∧ b ≠ ascii '\\') := by
  decide

/-- The bytes of a character that is not escaped are neither a quote nor a backslash. -/
theorem plain_of_not_mem {c : Char} (hshort : c ∉ shortEscapes.map Prod.fst) (hc : 32 ≤ c.toNat) :
    ∀ b ∈ utf8EncodeChar c, 32 ≤ b ∧ b ≠ ascii '"' ∧ b ≠ ascii '\\' := by
  intro b hb
  rcases Nat.lt_or_ge c.toNat 128 with hascii | hascii
  · -- the one byte of the character would be that of a character with a short escape
    rw [Text.utf8EncodeChar_of_ascii hascii, List.mem_singleton] at hb
    subst hb
    have hc' : c.toNat < 256 := by omega
    have hne {d : Char} (hd : d ∈ shortEscapes.map Prod.fst ∧ d.toNat < 256) :
        c.toUInt8 ≠ ascii d := by
      intro h
      exact hshort (Text.toUInt8_inj hc' hd.2 h ▸ hd.1)
    refine ⟨?_, hne (by decide), hne (by decide)⟩
    rw [UInt8.le_iff_toNat_le, Text.toNat_toUInt8 hc']
    exact hc
  · -- the quote and the backslash are characters of ASCII
    have hle := Text.le_of_mem_utf8EncodeChar hascii hb
    have hne {a : UInt8} (ha : a < 128) : b ≠ a := by
      rintro rfl
      exact UInt8.not_le.2 ha hle
    exact ⟨UInt8.le_trans (by decide) hle, hne (by decide), hne (by decide)⟩

/-- A character is escaped by another one, or by its code, or stands for itself and is then neither
    a quote nor a backslash. -/
theorem bytes_escapeChar (c : Char) :
    (∃ e, escapedBytes c = [ascii '\\', e] ∧ e ≠ ascii 'u' ∧ shortEscape? e = some c.toUInt8 ∧
      c.toNat < 128) ∨
    (∃ x y, escapedBytes c = [ascii '\\', ascii 'u', ascii '0', ascii '0', x, y] ∧
      fourDigits? (ascii '0') (ascii '0') x y = some c.toNat ∧ c.toNat < 32 ∧
      ∀ b ∈ [ascii 'u', ascii '0', ascii '0', x, y], b ≠ ascii '"' ∧ b ≠ ascii '\\') ∨
    (escapedBytes c = utf8EncodeChar c ∧
      ∀ b ∈ utf8EncodeChar c, 32 ≤ b ∧ b ≠ ascii '"' ∧ b ≠ ascii '\\') := by
  by_cases hshort : c ∈ shortEscapes.map Prod.fst
  · obtain ⟨p, hp, rfl⟩ := List.mem_map.1 hshort
    exact .inl ⟨ascii p.2, escapedBytes_of_mem_shortEscapes p hp⟩
  rcases Nat.lt_or_ge c.toNat 32 with hc | hc
  · obtain ⟨hbytes, hcode, hends⟩ := fourDigits?_code ⟨c.toNat, hc⟩
    simp only [List.all_eq_true, decide_eq_true_eq] at hends
    refine .inr (.inl ⟨_, _, ?_, hcode, hc, hends⟩)
    simp only [List.flatMap_cons] at hbytes
    rw [escapedBytes, escapeChar_of_not_mem hshort, if_pos hc]
    simp only [List.flatMap_cons]
    rw [hbytes]
    rfl
  · refine .inr (.inr ⟨?_, plain_of_not_mem hshort hc⟩)
    rw [escapedBytes, escapeChar_of_not_mem hshort, if_neg (Nat.not_lt.2 hc),
      List.flatMap_singleton]

/-! ## Units of a string -/

theorem units?_plain {b : UInt8} (hlow : 32 ≤ b) (hb : b ≠ ascii '\\') (rest : Bytes) :
    units? (b :: rest) = (units? rest).map (.byte b :: ·) := by
  rw [units?.eq_def]
  simp only [UInt8.not_lt.2 hlow, hb, ne_eq, not_false_eq_true, if_true, if_false]

theorem units?_short {e b : UInt8} (hu : e ≠ ascii 'u') (he : shortEscape? e = some b)
    (rest : Bytes) : units? (ascii '\\' :: e :: rest) = (units? rest).map (.byte b :: ·) := by
  have hlow : ¬ascii '\\' < 32 := by decide
  rw [units?.eq_def]
  simp [hlow, hu, he]

theorem units?_code {x y z w : UInt8} {code : Nat} (h : fourDigits? x y z w = some code)
    (rest : Bytes) :
    units? (ascii '\\' :: ascii 'u' :: x :: y :: z :: w :: rest) =
      (units? rest).map (.escaped code :: ·) := by
  have hlow : ¬ascii '\\' < 32 := by decide
  rw [units?.eq_def]
  simp [hlow, h]

theorem units?_bytes {bs : Bytes} (h : ∀ b ∈ bs, 32 ≤ b ∧ b ≠ ascii '\\') (rest : Bytes) :
    units? (bs ++ rest) = (units? rest).map (bs.map .byte ++ ·) := by
  induction bs with
  | nil => simp
  | cons b bs ih =>
    obtain ⟨hb, hbs⟩ := List.forall_mem_cons.1 h
    rw [List.cons_append, units?_plain hb.1 hb.2, ih hbs, Option.map_map]
    rfl

theorem bytesOfUnits?_bytes (bs : Bytes) (more : List Unit16) :
    bytesOfUnits? (bs.map .byte ++ more) = (bytesOfUnits? more).map (bs ++ ·) := by
  induction bs with
  | nil => simp
  | cons b bs ih =>
    rw [List.map_cons, List.cons_append, bytesOfUnits?, ih, Option.map_map]
    rfl

/-- The code of a character that is no surrogate stands for the character. -/
theorem bytesOfUnits?_code {c : Char} (h : c.toNat < 0xd800) (more : List Unit16) :
    bytesOfUnits? (.escaped c.toNat :: more) =
      (bytesOfUnits? more).map (utf8EncodeChar c ++ ·) := by
  rw [bytesOfUnits?.eq_def]
  simp only [charBytes, Char.ofNat_toNat, show ¬(0xd800 ≤ c.toNat ∧ c.toNat < 0xdc00) by omega,
    show ¬(0xdc00 ≤ c.toNat ∧ c.toNat < 0xe000) by omega, if_false]

/-- However a character is written, it is read as units that stand for it. -/
theorem exists_units_escape (c : Char) : ∃ us : List Unit16,
    (∀ rest, units? (escapedBytes c ++ rest) = (units? rest).map (us ++ ·)) ∧
    ∀ more, bytesOfUnits? (us ++ more) = (bytesOfUnits? more).map (utf8EncodeChar c ++ ·) := by
  rcases bytes_escapeChar c with ⟨e, hbytes, hu, he, hc⟩ | ⟨x, y, hbytes, hcode, hc, -⟩ |
    ⟨hbytes, hall⟩
  · refine ⟨[.byte c.toUInt8], fun rest => ?_, fun more => ?_⟩
    · rw [hbytes]
      exact units?_short hu he rest
    · rw [Text.utf8EncodeChar_of_ascii hc]
      exact bytesOfUnits?_bytes [c.toUInt8] more
  · refine ⟨[.escaped c.toNat], fun rest => ?_, bytesOfUnits?_code (by omega)⟩
    rw [hbytes]
    exact units?_code hcode rest
  · refine ⟨(utf8EncodeChar c).map .byte, fun rest => ?_, bytesOfUnits?_bytes _⟩
    rw [hbytes, units?_bytes fun b hb => ⟨(hall b hb).1, (hall b hb).2.2⟩]

theorem exists_units_flatMap (cs : List Char) : ∃ us : List Unit16,
    units? (cs.flatMap escapedBytes) = some us ∧
      bytesOfUnits? us = some (cs.flatMap utf8EncodeChar) := by
  induction cs with
  | nil => exact ⟨[], rfl, rfl⟩
  | cons c cs ih =>
    obtain ⟨us, hunits, hbytes⟩ := ih
    obtain ⟨vs, hread, hspell⟩ := exists_units_escape c
    refine ⟨vs ++ us, ?_, ?_⟩
    · rw [List.flatMap_cons, hread, hunits]
      rfl
    · rw [hspell, hbytes]
      rfl

/-- What is written between the quotes of a string denotes the string. -/
theorem stringLexeme?_escape (s : String) :
    stringLexeme? (s.toList.flatMap escapedBytes) = some (.string (some s)) := by
  obtain ⟨us, hunits, hbytes⟩ := exists_units_flatMap s.toList
  rw [← Text.ofText_eq_flatMap] at hbytes
  simp [stringLexeme?, hunits, hbytes, Bytes.text?_ofText]

/-! ## The end of a string -/

theorem scanFrom_bytes {bs : Bytes} (h : ∀ b ∈ bs, b ≠ ascii '"' ∧ b ≠ ascii '\\')
    (gathered rest : Bytes) :
    scanFrom (.string gathered) (bs ++ rest) =
      scanFrom (.string (bs.reverse ++ gathered)) rest := by
  induction bs generalizing gathered with
  | nil => rfl
  | cons b bs ih =>
    obtain ⟨hb, hbs⟩ := List.forall_mem_cons.1 h
    rw [List.cons_append, scanFrom, if_neg hb.1, if_neg hb.2, ih hbs]
    simp

/-- A written character does not end a string. -/
theorem scanFrom_escape (c : Char) (gathered rest : Bytes) :
    scanFrom (.string gathered) (escapedBytes c ++ rest) =
      scanFrom (.string ((escapedBytes c).reverse ++ gathered)) rest := by
  -- whatever follows a backslash is gathered unseen
  have backslash (e : UInt8) (more : Bytes) :
      scanFrom (.string gathered) (ascii '\\' :: e :: more) =
        scanFrom (.string (e :: ascii '\\' :: gathered)) more := by
    rw [scanFrom, if_neg (by decide), if_pos rfl, scanFrom]
  rcases bytes_escapeChar c with ⟨e, hbytes, -⟩ | ⟨x, y, hbytes, -, -, hends⟩ | ⟨hbytes, hall⟩
  · rw [hbytes]
    exact backslash e rest
  · rw [hbytes]
    exact (backslash _ _).trans (scanFrom_bytes (List.forall_mem_cons.1 hends).2 _ rest)
  · rw [hbytes]
    exact scanFrom_bytes (fun b hb => (hall b hb).2) gathered rest

theorem scanFrom_flatMap_escape (cs : List Char) (gathered rest : Bytes) :
    scanFrom (.string gathered) (cs.flatMap escapedBytes ++ rest) =
      scanFrom (.string ((cs.flatMap escapedBytes).reverse ++ gathered)) rest := by
  induction cs generalizing gathered with
  | nil => rfl
  | cons c cs ih =>
    rw [List.flatMap_cons, List.append_assoc, scanFrom_escape, ih, List.reverse_append,
      List.append_assoc]

theorem ofText_writeString (s : String) :
    Bytes.ofText (writeString s) =
      ascii '"' :: (s.toList.flatMap escapedBytes ++ [ascii '"']) := by
  have hinner : Bytes.ofText (String.ofList (s.toList.flatMap escapeChar)) =
      s.toList.flatMap escapedBytes := by
    rw [Bytes.ofText_ofList, List.flatMap_assoc]
    rfl
  rw [writeString, Bytes.ofText_append, Bytes.ofText_append, hinner]
  rfl

/-- A written string is scanned as one lexeme that denotes it. -/
theorem scanFrom_writeString (s : String) (rest : Bytes) :
    scanFrom .nothing (Bytes.ofText (writeString s) ++ rest) =
      (scanFrom .nothing rest).map (.string (some s) :: ·) := by
  have hspace : isSpace (ascii '"') = false := by decide
  rw [ofText_writeString, List.cons_append, scanFrom, hspace]
  simp only [Bool.false_eq_true, if_false, if_true, List.append_assoc, List.singleton_append]
  rw [scanFrom_flatMap_escape, scanFrom, if_pos rfl, List.append_nil, List.reverse_reverse,
    stringLexeme?_escape]
  rfl

end Formulary.Json
