import Formulary.Proofs.Text.Hex
import Mathlib.Data.String.Basic
import Mathlib.Tactic.Tauto

/-!
# Hexadecimal digits

A text in hexadecimal is read exactly if it has an even number of bytes and all of them are digits
(`exists_decode_iff`). An odd number is told first, then the first byte that is no digit
(`decode_eq_error_iff`). Digits are in the order of their values and come in pairs, so texts are in
the order of the bytes that they are written for (`encode_lt_iff`).
-/

namespace Formulary.Text.Hex

/-- The hexadecimal digits, in either case. -/
def digits : List Char :=
  "0123456789abcdefABCDEF".toList

/-- The byte is a hexadecimal digit. -/
def IsDigit (b : UInt8) : Prop :=
  b ∈ digits.map Char.toUInt8

instance (b : UInt8) : Decidable (IsDigit b) :=
  inferInstanceAs (Decidable (b ∈ digits.map Char.toUInt8))

theorem value?_eq_none_iff (b : UInt8) : value? b = none ↔ ¬IsDigit b :=
  forall_byte (p := fun b => value? b = none ↔ ¬IsDigit b) (by decide +kernel) b

theorem isDigit_of_value? {b n : UInt8} (h : value? b = some n) : IsDigit b := by
  by_contra hb
  rw [(value?_eq_none_iff b).2 hb] at h
  cases h

theorem toNat_lt_of_mem_digits {c : Char} (h : c ∈ digits) : c.toNat < 128 := by
  have hall : digits.all fun d => d.toNat < 128 := by decide
  simpa using List.all_eq_true.1 hall c h

/-- A character is a digit exactly if all of its bytes are. -/
theorem mem_digits_iff {c : Char} :
    c ∈ digits ↔ ∀ b ∈ String.utf8EncodeChar c, IsDigit b := by
  by_cases hascii : c.toNat < 128
  · rw [utf8EncodeChar_of_ascii hascii, List.forall_mem_singleton, IsDigit, List.mem_map]
    constructor
    · intro hc
      exact ⟨c, hc, rfl⟩
    · rintro ⟨d, hd, hbyte⟩
      rwa [← toUInt8_inj (Nat.lt_trans (toNat_lt_of_mem_digits hd) (by decide))
        (Nat.lt_trans hascii (by decide)) hbyte]
  -- no byte of a character beyond ASCII is a digit, and there is at least one
  · refine iff_of_false (fun hc => hascii (toNat_lt_of_mem_digits hc)) fun hall => ?_
    obtain ⟨b, hb⟩ := List.exists_mem_of_ne_nil _ (String.utf8EncodeChar_ne_nil (c := c))
    have hlow : ∀ b ∈ digits.map Char.toUInt8, b < 128 := by decide +kernel
    have hhigh := le_of_mem_utf8EncodeChar (Nat.le_of_not_lt hascii) hb
    exact absurd (hlow b (hall b hb)) (UInt8.not_lt.2 hhigh)

theorem forall_mem_digits_iff {s : String} :
    (∀ c ∈ s.toList, c ∈ digits) ↔ ∀ b ∈ Bytes.ofText s, IsDigit b := by
  simp only [ofText_eq_flatMap, List.mem_flatMap, mem_digits_iff]
  exact ⟨fun h b ⟨c, hc, hb⟩ => h c hc b hb, fun h c hc b hb => h b ⟨c, hc, hb⟩⟩

/-! ## What cannot be read -/

/-- The first of the bytes that is no digit, and where it is. -/
structure IsFirstStray (bytes : Bytes) (b : UInt8) (position : Nat) : Prop where
  getElem?_eq : bytes[position]? = some b
  not_isDigit : ¬IsDigit b
  isDigit_before : ∀ c ∈ bytes.take position, IsDigit c

variable {bytes : Bytes} {b x : UInt8} {n : Nat}

theorem isFirstStray_cons_of_not (hx : ¬IsDigit x) :
    IsFirstStray (x :: bytes) b n ↔ b = x ∧ n = 0 := by
  constructor
  · intro h
    cases n with
    | zero => exact ⟨(Option.some.inj h.getElem?_eq).symm, rfl⟩
    | succ n => exact absurd (h.isDigit_before x (by simp)) hx
  · rintro ⟨rfl, rfl⟩
    exact ⟨rfl, hx, by simp⟩

theorem isFirstStray_cons_of_isDigit (hx : IsDigit x) :
    IsFirstStray (x :: bytes) b n ↔ ∃ m, n = m + 1 ∧ IsFirstStray bytes b m := by
  constructor
  · intro h
    cases n with
    | zero => exact absurd (Option.some.inj h.getElem?_eq ▸ hx) h.not_isDigit
    | succ n =>
      refine ⟨n, rfl, by simpa using h.getElem?_eq, h.not_isDigit, fun c hc => ?_⟩
      exact h.isDigit_before c (List.mem_cons_of_mem x hc)
  · rintro ⟨m, rfl, h⟩
    refine ⟨by simpa using h.getElem?_eq, h.not_isDigit, ?_⟩
    rw [List.take_succ_cons, List.forall_mem_cons]
    exact ⟨hx, h.isDigit_before⟩

/-- Where not all bytes are digits there is a first one that is none. -/
theorem exists_isFirstStray (h : ¬∀ c ∈ bytes, IsDigit c) : ∃ b n, IsFirstStray bytes b n := by
  induction bytes with
  | nil => simp at h
  | cons x bytes ih =>
    by_cases hx : IsDigit x
    · obtain ⟨b, n, hstray⟩ := ih fun hall => h (List.forall_mem_cons.2 ⟨hx, hall⟩)
      exact ⟨b, n + 1, (isFirstStray_cons_of_isDigit hx).2 ⟨n, rfl, hstray⟩⟩
    · exact ⟨x, 0, (isFirstStray_cons_of_not hx).2 ⟨rfl, rfl⟩⟩

/-- Of an even number of bytes the first that is no digit is told, and nothing else. -/
theorem decodeFrom_eq_error_iff : ∀ {i : Nat} {bytes : Bytes} {fault : Fault},
    bytes.length % 2 = 0 →
      (decodeFrom i bytes = .error fault ↔
        ∃ b n, fault = .notADigit b (i + n) ∧ IsFirstStray bytes b n)
  | i, [], fault, _ => by
    refine iff_of_false (by simp [decodeFrom]) ?_
    rintro ⟨b, n, -, h⟩
    simpa using h.getElem?_eq
  | i, [x], fault, heven => by simp at heven
  | i, high :: low :: rest, fault, heven => by
    have hrest : rest.length % 2 = 0 := by
      simp only [List.length_cons] at heven
      omega
    rw [decodeFrom]
    rcases hhigh : value? high with _ | m
    · simp [isFirstStray_cons_of_not ((value?_eq_none_iff high).1 hhigh), eq_comm]
    have hdigit : IsDigit high := isDigit_of_value? hhigh
    rcases hlow : value? low with _ | n
    · simp only [isFirstStray_cons_of_isDigit hdigit,
        isFirstStray_cons_of_not ((value?_eq_none_iff low).1 hlow), Except.error.injEq]
      constructor
      · rintro rfl
        exact ⟨low, 1, rfl, 0, rfl, rfl, rfl⟩
      · rintro ⟨-, -, rfl, -, rfl, rfl, rfl⟩
        rfl
    have hdigit' : IsDigit low := isDigit_of_value? hlow
    -- both are digits, so it is the rest that cannot be read
    have hmap : ((decodeFrom (i + 2) rest).map ((m <<< 4 ||| n) :: ·) = .error fault) ↔
        decodeFrom (i + 2) rest = .error fault := by
      rcases decodeFrom (i + 2) rest with _ | _ <;> simp [Except.map]
    simp only [hmap, decodeFrom_eq_error_iff hrest, isFirstStray_cons_of_isDigit hdigit,
      isFirstStray_cons_of_isDigit hdigit']
    constructor
    · rintro ⟨b, k, rfl, h⟩
      exact ⟨b, k + 2, congrArg (Fault.notADigit b) (by omega), _, rfl, k, rfl, h⟩
    · rintro ⟨b, -, rfl, -, rfl, k, rfl, h⟩
      exact ⟨b, k, congrArg (Fault.notADigit b) (by omega), h⟩

/-- An odd number of bytes is told first, then the first of them that is no digit. -/
theorem decode_eq_error_iff {fault : Fault} :
    decode bytes = .error fault ↔
      (bytes.length % 2 = 1 ∧ fault = .oddLength) ∨
        bytes.length % 2 = 0 ∧ ∃ b n, fault = .notADigit b n ∧ IsFirstStray bytes b n := by
  rw [decode]
  split_ifs with hodd
  · simp [hodd, eq_comm]
  · have heven : bytes.length % 2 = 0 := by omega
    simp [heven, decodeFrom_eq_error_iff heven]

/-- Bytes are read exactly if they are digits and can be put in pairs. -/
theorem exists_decode_iff :
    (∃ b, decode bytes = .ok b) ↔ bytes.length % 2 = 0 ∧ ∀ c ∈ bytes, IsDigit c := by
  constructor
  · rintro ⟨b, h⟩
    have hno (fault : Fault) : decode bytes ≠ .error fault := by simp [h]
    simp only [ne_eq, decode_eq_error_iff] at hno
    have heven : bytes.length % 2 = 0 := by
      have hlength := hno .oddLength
      simp at hlength
      omega
    refine ⟨heven, not_not.1 fun hall => ?_⟩
    obtain ⟨b, n, hstray⟩ := exists_isFirstStray hall
    exact hno _ (.inr ⟨heven, b, n, rfl, hstray⟩)
  · rintro ⟨heven, hall⟩
    rcases h : decode bytes with fault | b
    · rcases decode_eq_error_iff.1 h with ⟨hodd, -⟩ | ⟨-, b, n, -, hstray⟩
      · omega
      · exact absurd (hall b (List.mem_of_getElem? hstray.getElem?_eq)) hstray.not_isDigit
    · exact ⟨b, rfl⟩

/-- Bytes are not read exactly if one is left over or is no digit. -/
theorem exists_decode_error_iff :
    (∃ fault, decode bytes = .error fault) ↔ bytes.length % 2 = 1 ∨ ∃ c ∈ bytes, ¬IsDigit c := by
  have hread : (∃ fault, decode bytes = .error fault) ↔ ¬∃ b, decode bytes = .ok b := by
    rcases decode bytes with fault | b <;> simp
  have hodd : ¬bytes.length % 2 = 0 ↔ bytes.length % 2 = 1 := by omega
  rw [hread, exists_decode_iff, not_and_or, hodd]
  push Not
  rfl

theorem length_of_decode {b : Bytes} (h : decode bytes = .ok b) : bytes.length = 2 * b.length := by
  have htext := congrArg List.length (decode_eq_ok_iff.1 h)
  have hwritten : ∀ b : Bytes, (Bytes.ofText (encode b)).length = 2 * b.length := by
    intro b
    rw [ofText_encode]
    induction b with
    | nil => rfl
    | cons x b ih =>
      rw [List.flatMap_cons, List.length_append, ih]
      simp only [encodeByte, List.length_map, List.length_cons, List.length_nil]
      omega
  rwa [List.length_map, hwritten] at htext

/-- So many bytes are read exactly from twice as many digits. -/
theorem exists_decode_length_iff :
    (∃ b, decode bytes = .ok b ∧ b.length = n) ↔
      bytes.length = 2 * n ∧ ∀ c ∈ bytes, IsDigit c := by
  constructor
  · rintro ⟨b, h, rfl⟩
    exact ⟨length_of_decode h, (exists_decode_iff.1 ⟨b, h⟩).2⟩
  · rintro ⟨hlength, hall⟩
    obtain ⟨b, h⟩ := exists_decode_iff.2 ⟨by omega, hall⟩
    have hb := length_of_decode h
    exact ⟨b, h, by omega⟩

/-- Digits are one byte each. -/
theorem length_ofText {s : String} (h : ∀ c ∈ s.toList, c ∈ digits) :
    (Bytes.ofText s).length = s.length := by
  have hread := congrArg List.length (map_ofNat_ofText fun c hc =>
    toNat_lt_of_mem_digits (h c hc))
  rwa [List.length_map, String.length_toList] at hread

/-! ## The order of what is written -/

/-- Bytes are in the order of their high halves, and then of their low halves. -/
theorem lt_iff_halves {x y : UInt8} :
    x < y ↔ x >>> 4 < y >>> 4 ∨ x >>> 4 = y >>> 4 ∧ x &&& 15 < y &&& 15 := by
  have hhigh (z : UInt8) : (z >>> 4).toNat = z.toNat / 16 := by
    rw [UInt8.toNat_shiftRight, Nat.shiftRight_eq_div_pow]
    rfl
  have hlow (z : UInt8) : (z &&& 15).toNat = z.toNat % 16 := by
    rw [UInt8.toNat_and]
    exact Nat.and_two_pow_sub_one_eq_mod _ 4
  simp only [UInt8.lt_iff_toNat_lt, ← UInt8.toNat_inj, hhigh, hlow]
  omega

/-- Digits are in the order of their values. -/
theorem digit_lt_iff {m n : UInt8} (hm : m < 16) (hn : n < 16) :
    digit m < digit n ↔ m < n := by
  have hall : ∀ i j : Fin 16,
      digit (UInt8.ofNat i) < digit (UInt8.ofNat j) ↔ UInt8.ofNat i < UInt8.ofNat j := by
    decide +kernel
  rw [← UInt8.ofNat_toNat (x := m), ← UInt8.ofNat_toNat (x := n)]
  exact hall ⟨m.toNat, hm⟩ ⟨n.toNat, hn⟩

theorem digit_inj {m n : UInt8} (hm : m < 16) (hn : n < 16) : digit m = digit n ↔ m = n := by
  constructor
  · intro h
    refine UInt8.le_antisymm (UInt8.not_lt.1 fun hlt => ?_) (UInt8.not_lt.1 fun hlt => ?_)
    · exact absurd ((digit_lt_iff hn hm).2 hlt) (h ▸ lt_irrefl _)
    · exact absurd ((digit_lt_iff hm hn).2 hlt) (h ▸ lt_irrefl _)
  · rintro rfl
    rfl

theorem encodeByte_append_lt_iff {x y : UInt8} {cs ds : List Char} :
    encodeByte x ++ cs < encodeByte y ++ ds ↔ x < y ∨ x = y ∧ cs < ds := by
  obtain ⟨hx, hx'⟩ := halves_lt x
  obtain ⟨hy, hy'⟩ := halves_lt y
  have heq : x = y ↔ x >>> 4 = y >>> 4 ∧ x &&& 15 = y &&& 15 := by
    refine ⟨fun h => by simp [h], fun ⟨hhigh, hlow⟩ => ?_⟩
    rw [← join_halves x, ← join_halves y, hhigh, hlow]
  rw [lt_iff_halves, heq]
  simp only [encodeByte, List.cons_append, List.nil_append, List.cons_lt_cons_iff,
    digit_lt_iff hx hy, digit_lt_iff hx' hy', digit_inj hx hy, digit_inj hx' hy']
  tauto

/-- What is written is in the order of the bytes. -/
theorem encode_lt_iff {b c : Bytes} : encode b < encode c ↔ b < c := by
  rw [String.lt_iff_toList_lt, encode, encode, String.toList_ofList, String.toList_ofList]
  induction b generalizing c with
  | nil =>
    cases c with
    | nil => simp
    | cons y c => simp [encodeByte]
  | cons x b ih =>
    cases c with
    | nil => simp
    | cons y c =>
      rw [List.flatMap_cons, List.flatMap_cons, encodeByte_append_lt_iff, ih,
        List.cons_lt_cons_iff]

end Formulary.Text.Hex
