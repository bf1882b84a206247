import Formulary.Proofs.Text.Utf8
import Formulary.Text.Hex

/-!
# Hexadecimal in either case

The two cases of a digit have the same value, and lower case is what is written. So bytes are read
from a text exactly if they are written as the text in lower case (`decode_eq_ok_iff`).
-/

namespace Formulary.Text.Hex

/-! ## Digits in either case -/

/-- A byte, in lower case if it is a letter of ASCII. -/
def lower (b : UInt8) : UInt8 :=
  if 'A'.toUInt8 ≤ b ∧ b ≤ 'Z'.toUInt8 then b + 32 else b

/-- What holds of all numbers below 256 as bytes holds of all bytes. -/
theorem forall_byte {p : UInt8 → Prop} (h : ∀ n : Fin 256, p (UInt8.ofNat n)) (b : UInt8) :
    p b := by
  rw [← UInt8.ofNat_toNat (x := b)]
  exact h ⟨b.toNat, b.toNat_lt⟩

theorem value?_lower : ∀ b, value? (lower b) = value? b :=
  forall_byte (by decide +kernel)

/-- A digit is, in lower case, the one that is written for its value. -/
theorem lower_of_value? : ∀ b, ∀ n ∈ value? b, n < 16 ∧ lower b = (digit n).toUInt8 :=
  forall_byte (by decide +kernel)

/-- Two values below sixteen make up the byte whose halves they are. -/
theorem halves_join {m n : UInt8} (hm : m < 16) (hn : n < 16) :
    (m <<< 4 ||| n) >>> 4 = m ∧ (m <<< 4 ||| n) &&& 15 = n := by
  have hall : ∀ i j : Fin 16,
      (UInt8.ofNat i <<< 4 ||| UInt8.ofNat j) >>> 4 = UInt8.ofNat i ∧
        (UInt8.ofNat i <<< 4 ||| UInt8.ofNat j) &&& 15 = UInt8.ofNat j := by decide +kernel
  rw [← UInt8.ofNat_toNat (x := m), ← UInt8.ofNat_toNat (x := n)]
  exact hall ⟨m.toNat, hm⟩ ⟨n.toNat, hn⟩

/-- The two bytes denote the byte that they are, in lower case, the digits of. -/
theorem value?_pair_iff {high low b : UInt8} :
    (∃ m n, value? high = some m ∧ value? low = some n ∧ m <<< 4 ||| n = b) ↔
      [lower high, lower low] = (encodeByte b).map Char.toUInt8 := by
  obtain ⟨hhigh, hlow, hjoin⟩ := value?_encodeByte b
  simp only [encodeByte, List.map_cons, List.map_nil, List.cons.injEq, and_true]
  constructor
  · rintro ⟨m, n, hm, hn, rfl⟩
    obtain ⟨hm, hhigh⟩ := lower_of_value? high m hm
    obtain ⟨hn, hlow⟩ := lower_of_value? low n hn
    obtain ⟨hfirst, hsecond⟩ := halves_join hm hn
    rw [hfirst, hsecond]
    exact ⟨hhigh, hlow⟩
  · rintro ⟨hm, hn⟩
    rw [← value?_lower high, ← value?_lower low, hm, hn]
    exact ⟨_, _, hhigh, hlow, hjoin⟩

/-! ## Texts in either case -/

/-- Bytes are read pair by pair. -/
theorem decodeFrom_cons_cons_eq_ok_iff {i : Nat} {high low : UInt8} {rest b : Bytes} :
    decodeFrom i (high :: low :: rest) = .ok b ↔
      ∃ x xs, b = x :: xs ∧
        (∃ m n, value? high = some m ∧ value? low = some n ∧ m <<< 4 ||| n = x) ∧
        decodeFrom (i + 2) rest = .ok xs := by
  rw [decodeFrom]
  rcases value? high with _ | m
  · simp
  rcases value? low with _ | n
  · simp
  rcases decodeFrom (i + 2) rest with fault | xs
  · simp [Except.map]
  · simp [Except.map, eq_comm]

/-- Bytes are read exactly from what they are written as, in either case. -/
theorem decodeFrom_eq_ok_iff : ∀ (i : Nat) (digits b : Bytes),
    decodeFrom i digits = .ok b ↔ digits.map lower = Bytes.ofText (encode b)
  | i, [], b => by
    rw [decodeFrom, ofText_encode]
    cases b with
    | nil => simp
    | cons x xs => simp [encodeByte]
  | i, [_], b => by
    rw [decodeFrom, ofText_encode]
    cases b with
    | nil => simp
    | cons x xs => simp [encodeByte]
  | i, high :: low :: rest, b => by
    rw [decodeFrom_cons_cons_eq_ok_iff, ofText_encode]
    simp only [value?_pair_iff, decodeFrom_eq_ok_iff (i + 2) rest, ofText_encode]
    cases b with
    | nil => simp
    | cons x xs => simp [encodeByte, and_assoc]

theorem decode_eq_ok_iff {digits b : Bytes} :
    decode digits = .ok b ↔ digits.map lower = Bytes.ofText (encode b) := by
  rw [decode, ← decodeFrom_eq_ok_iff 0]
  split_ifs with hodd
  · -- what is written has two digits a byte
    refine iff_of_false (by simp) fun h => ?_
    have hlength := congrArg List.length ((decodeFrom_eq_ok_iff 0 digits b).1 h)
    have hwritten := decode_encode b
    rw [decode] at hwritten
    split_ifs at hwritten with heven
    rw [List.length_map] at hlength
    exact heven (hlength ▸ hodd)
  · rfl

theorem map_lower_utf8EncodeChar (c : Char) :
    (String.utf8EncodeChar c).map lower = String.utf8EncodeChar c.toLower := by
  by_cases hascii : c.toNat < 128
  · have hall : ∀ n : Fin 128, (String.utf8EncodeChar (Char.ofNat n)).map lower =
        String.utf8EncodeChar (Char.ofNat n).toLower := by decide +kernel
    simpa using hall ⟨c.toNat, hascii⟩
  -- neither the character nor its bytes are letters of ASCII
  · have hhigh : 128 ≤ c.toNat := Nat.le_of_not_lt hascii
    have hlower : c.toLower = c := by
      refine dif_neg ?_
      rintro ⟨-, hle⟩
      exact hascii (Nat.lt_of_le_of_lt (UInt32.le_iff_toNat_le.1 hle) (by decide))
    have hkept : ∀ b ∈ String.utf8EncodeChar c, lower b = b := by
      intro b hb
      rw [lower, if_neg]
      rintro ⟨-, hle⟩
      exact absurd (UInt8.le_trans (le_of_mem_utf8EncodeChar hhigh hb) hle) (by decide)
    rw [hlower, List.map_congr_left hkept, List.map_id']

/-- The bytes of a text in lower case. -/
theorem map_lower_ofText (s : String) : (Bytes.ofText s).map lower = Bytes.ofText s.toLower := by
  have hlower : s.toLower = s.map Char.toLower := rfl
  rw [hlower, ofText_eq_flatMap, ofText_eq_flatMap, String.toList_map, List.flatMap_map,
    List.map_flatMap]
  simp only [map_lower_utf8EncodeChar]

end Formulary.Text.Hex
