import Formulary.Bytes
import Formulary.Text.Quoted

/-!
# Bytes written in hexadecimal

Each byte is written as two digits to base sixteen, the high one first; writing uses lower case,
reading accepts either case.

* `decode_encode`: what is written reads back;
* `length_encode`: two digits a byte.
-/

namespace Formulary.Text.Hex

/-- The digit of value `n`, for `n` below sixteen. -/
def digit (n : UInt8) : Char :=
  if n < 10 then Char.ofNat ('0'.toNat + n.toNat) else Char.ofNat ('a'.toNat + (n.toNat - 10))

/-- The value of a digit, given as its byte in ASCII. -/
def value? (b : UInt8) : Option UInt8 :=
  if '0'.toUInt8 ≤ b ∧ b ≤ '9'.toUInt8 then some (b - '0'.toUInt8)
  else if 'a'.toUInt8 ≤ b ∧ b ≤ 'f'.toUInt8 then some (b - 'a'.toUInt8 + 10)
  else if 'A'.toUInt8 ≤ b ∧ b ≤ 'F'.toUInt8 then some (b - 'A'.toUInt8 + 10)
  else none

/-- The two digits of a byte. -/
def encodeByte (b : UInt8) : List Char :=
  [digit (b >>> 4), digit (b &&& 15)]

/-- The digits of `b`. -/
def encode (b : Bytes) : String :=
  String.ofList (b.flatMap encodeByte)

/-- Why a text is no sequence of bytes in hexadecimal. -/
inductive Fault
  /-- One digit has no partner. -/
  | oddLength
  /-- The byte at a position is no digit. -/
  | notADigit (byte : UInt8) (position : Nat)
  deriving DecidableEq, Repr

/-- What is said of a fault: a byte that is no digit shows as the character of that number. -/
def Fault.message : Fault → String
  | .oddLength => "Odd number of digits"
  | .notADigit b i =>
    "Invalid character " ++ quotedChar (Char.ofNat b.toNat) ++ " at position " ++ toString i

/-- The bytes that the digits from position `i` on denote, pair by pair. -/
def decodeFrom (i : Nat) : Bytes → Except Fault Bytes
  | [] => .ok []
  | [_] => .error .oddLength
  | high :: low :: rest =>
    match value? high, value? low with
    | none, _ => .error (.notADigit high i)
    | some _, none => .error (.notADigit low (i + 1))
    | some h, some l => (decodeFrom (i + 2) rest).map ((h <<< 4 ||| l) :: ·)

/-- The bytes that `digits` denote; an odd number of digits is told before any wrong digit. -/
def decode (digits : Bytes) : Except Fault Bytes :=
  if digits.length % 2 = 1 then .error .oddLength else decodeFrom 0 digits

theorem length_encode (b : Bytes) : (encode b).length = 2 * b.length := by
  simp only [encode, String.length_ofList]
  induction b with
  | nil => rfl
  | cons x xs ih => simp [encodeByte, ih]; omega

/-! ## The two halves of a byte -/

theorem halves_lt (b : UInt8) : b >>> 4 < 16 ∧ b &&& 15 < 16 := by
  constructor
  · rw [UInt8.lt_iff_toNat_lt, UInt8.toNat_shiftRight, Nat.shiftRight_eq_div_pow]
    exact Nat.div_lt_of_lt_mul b.toNat_lt
  · rw [UInt8.lt_iff_toNat_lt, UInt8.toNat_and]
    exact Nat.lt_succ_of_le Nat.and_le_right

/-- The halves make up the byte. -/
theorem join_halves (b : UInt8) : (b >>> 4) <<< 4 ||| (b &&& 15) = b := by
  apply UInt8.toNat_inj.1
  have hlow : b.toNat &&& 15 = b.toNat % 2 ^ 4 := Nat.and_two_pow_sub_one_eq_mod _ 4
  have hhigh : b.toNat >>> 4 <<< 4 < 2 ^ 8 := by
    rw [Nat.shiftRight_eq_div_pow, Nat.shiftLeft_eq]
    exact Nat.lt_of_le_of_lt (Nat.div_mul_le_self _ _) b.toNat_lt
  simp only [UInt8.toNat_or, UInt8.toNat_shiftLeft, UInt8.toNat_shiftRight, UInt8.toNat_and,
    UInt8.reduceToNat, Nat.reduceMod]
  rw [Nat.mod_eq_of_lt hhigh, hlow, ← Nat.shiftLeft_add_eq_or_of_lt (Nat.mod_lt _ (by decide)),
    Nat.shiftRight_eq_div_pow, Nat.shiftLeft_eq]
  exact Nat.div_add_mod' _ _

/-- What holds of the sixteen numbers that have a digit holds of both halves. -/
theorem forall_half {p : UInt8 → Prop} (h : ∀ n : Fin 16, p (UInt8.ofNat n)) (b : UInt8) :
    p (b >>> 4) ∧ p (b &&& 15) := by
  have hlt {x : UInt8} (hx : x < 16) : p x := by
    rw [← UInt8.ofNat_toNat (x := x)]
    exact h ⟨x.toNat, hx⟩
  exact ⟨hlt (halves_lt b).1, hlt (halves_lt b).2⟩

/-- What holds of the sixteen digits holds of the two digits of a byte. -/
theorem forall_mem_encodeByte {p : Char → Prop} (h : ∀ n : Fin 16, p (digit (UInt8.ofNat n)))
    (b : UInt8) : ∀ c ∈ encodeByte b, p c := by
  obtain ⟨hhigh, hlow⟩ := forall_half (p := fun x => p (digit x)) h b
  simp [encodeByte, hhigh, hlow]

/-- A digit of a byte is one byte of text. -/
theorem utf8EncodeChar_encodeByte (b : UInt8) :
    (encodeByte b).flatMap String.utf8EncodeChar = (encodeByte b).map Char.toUInt8 := by
  have hdigits := forall_mem_encodeByte (p := fun c => String.utf8EncodeChar c = [c.toUInt8])
    (by decide) b
  simp only [encodeByte, List.mem_cons, List.not_mem_nil, or_false, forall_eq_or_imp,
    forall_eq] at hdigits
  simp [encodeByte, hdigits]

/-- The two digits of a byte denote its halves, which make it up. -/
theorem value?_encodeByte (b : UInt8) :
    value? (digit (b >>> 4)).toUInt8 = some (b >>> 4) ∧
      value? (digit (b &&& 15)).toUInt8 = some (b &&& 15) ∧
      (b >>> 4) <<< 4 ||| (b &&& 15) = b := by
  obtain ⟨hhigh, hlow⟩ := forall_half (p := fun x => value? (digit x).toUInt8 = some x)
    (by decide) b
  exact ⟨hhigh, hlow, join_halves b⟩

theorem ofText_encode (b : Bytes) :
    Bytes.ofText (encode b) = b.flatMap fun x => (encodeByte x).map Char.toUInt8 := by
  rw [encode, Bytes.ofText_ofList]
  induction b with
  | nil => rfl
  | cons x xs ih =>
    rw [List.flatMap_cons, List.flatMap_append, utf8EncodeChar_encodeByte, ih, List.flatMap_cons]

theorem decodeFrom_encode (i : Nat) (b : Bytes) :
    decodeFrom i (Bytes.ofText (encode b)) = .ok b := by
  rw [ofText_encode]
  induction b generalizing i with
  | nil => rfl
  | cons x xs ih =>
    obtain ⟨hh, hl, hx⟩ := value?_encodeByte x
    simp only [List.flatMap_cons, encodeByte, List.map_cons, List.map_nil, List.cons_append,
      List.nil_append, decodeFrom, hh, hl]
    simp only [encodeByte, List.map_cons, List.map_nil] at ih
    simp only [ih, Except.map, hx]

/-- What is written reads back. -/
theorem decode_encode (b : Bytes) : decode (Bytes.ofText (encode b)) = .ok b := by
  have even : (Bytes.ofText (encode b)).length % 2 = 0 := by
    rw [ofText_encode]
    induction b with
    | nil => rfl
    | cons x xs ih =>
      rw [List.flatMap_cons, List.length_append]
      simp only [encodeByte, List.length_map, List.length_cons, List.length_nil] at ih ⊢
      omega
  rw [decode, if_neg (by omega), decodeFrom_encode]

end Formulary.Text.Hex
