import Formulary.Proofs.Token.Places
import Mathlib.Data.Nat.Digits.Defs

/-!
# What a run is read as

A run of characters that are neither blanks nor delimiters is one token. Digits after an optional
sign have a value, however many of them there are (`HasValue`), and are that integer if it fits 64
bits, and never anything else but unrecognized. Of the other runs symbols are those of symbol
characters that start with no digit.

* `read_as_one`: which runs are integers, symbols and unrecognized, and that an integer in decimal
  is read as that integer.
-/

namespace Formulary.Token

open Text (isBlank)

/-- The number that a run of digits denotes: each digit counts ten times as much as the one after
    it. -/
def placeValue (digits : List Char) : Nat :=
  Nat.ofDigits 10 (digits.reverse.map fun c => c.toNat - '0'.toNat)

/-- The run is one or more digits, after one sign or none, and this is their value. -/
inductive HasValue : List Char → Int → Prop
  | bare {digits : List Char} (hne : digits ≠ []) (hdigits : ∀ c ∈ digits, c.isDigit) :
      HasValue digits (placeValue digits)
  | plus {digits : List Char} (hne : digits ≠ []) (hdigits : ∀ c ∈ digits, c.isDigit) :
      HasValue ('+' :: digits) (placeValue digits)
  | minus {digits : List Char} (hne : digits ≠ []) (hdigits : ∀ c ∈ digits, c.isDigit) :
      HasValue ('-' :: digits) (-placeValue digits)

variable {run digits : List Char} {m : Int}

/-! ## Values -/

theorem ofDigits_eq_placeValue (digits : List Char) : Text.ofDigits digits = placeValue digits := by
  induction digits using List.reverseRecOn with
  | nil => rfl
  | append_singleton digits c ih =>
    rw [Text.ofDigits_append_singleton, ih, placeValue, placeValue, List.reverse_append]
    simp only [List.reverse_singleton, List.singleton_append, List.map_cons, Nat.ofDigits_cons]
    exact Nat.add_comm _ _

theorem isNumeral_iff : Text.isNumeral digits ↔ digits ≠ [] ∧ ∀ c ∈ digits, c.isDigit := by
  simp [Text.isNumeral]

theorem signed_eq_placeValue (negative : Bool) (digits : List Char) :
    Text.signed negative digits =
      if negative then -(placeValue digits : Int) else placeValue digits := by
  rw [Text.signed, ofDigits_eq_placeValue]

/-- The value of a run is read off the digits after its sign. -/
theorem hasValue_iff :
    HasValue run m ↔ Text.isNumeral (Text.splitSign run).2 ∧
      Text.signed (Text.splitSign run).1 (Text.splitSign run).2 = m := by
  simp only [signed_eq_placeValue]
  constructor
  · intro h
    cases h with
    | bare hne hdigits =>
      have hnumeral := isNumeral_iff.2 ⟨hne, hdigits⟩
      rw [Text.splitSign_of_isNumeral hnumeral]
      exact ⟨hnumeral, rfl⟩
    | plus hne hdigits => exact ⟨isNumeral_iff.2 ⟨hne, hdigits⟩, rfl⟩
    | minus hne hdigits => exact ⟨isNumeral_iff.2 ⟨hne, hdigits⟩, rfl⟩
  · rintro ⟨hnumeral, rfl⟩
    obtain ⟨hne, hdigits⟩ := isNumeral_iff.1 hnumeral
    rcases hsign : Text.splitSign run with ⟨negative, digits⟩
    rw [hsign] at hne hdigits
    rw [Text.splitSign.eq_def] at hsign
    split at hsign
    · obtain ⟨rfl, rfl⟩ := Prod.mk.inj hsign
      exact .minus hne hdigits
    · obtain ⟨rfl, rfl⟩ := Prod.mk.inj hsign
      exact .plus hne hdigits
    · obtain ⟨rfl, rfl⟩ := Prod.mk.inj hsign
      exact .bare hne hdigits

theorem HasValue.unique {n : Int} (hm : HasValue run m) (hn : HasValue run n) : m = n :=
  (hasValue_iff.1 hm).2.symm.trans (hasValue_iff.1 hn).2

/-! ## Kinds -/

/-- The run starts with no digit and has symbol characters only. -/
def IsSymbolic (run : List Char) : Prop :=
  (∀ c ∈ run.head?, c.isDigit = false) ∧ ∀ c ∈ run, isSymbolChar c

instance (run : List Char) : Decidable (IsSymbolic run) :=
  inferInstanceAs (Decidable ((∀ c ∈ run.head?, c.isDigit = false) ∧ ∀ c ∈ run, isSymbolChar c))

theorem int64?_eq_some_iff {n : Int64} : Text.int64? m = some n ↔ n.toInt = m := by
  constructor
  · exact toInt_of_int64?
  · rintro rfl
    exact Text.int64?_toInt n

/-- A run with a value is that integer, if it is one of 64 bits. -/
theorem ofRun_of_hasValue (h : HasValue run m) :
    Kind.ofRun run =
      ((Text.int64? m).map Kind.integer).getD (.unrecognized (String.ofList run)) := by
  obtain ⟨hnumeral, hvalue⟩ := hasValue_iff.1 h
  rw [Kind.ofRun]
  dsimp only
  rw [if_pos hnumeral, hvalue]
  rcases Text.int64? m with _ | n <;> rfl

theorem ofRun_of_no_value (h : ∀ m, ¬HasValue run m) :
    Kind.ofRun run =
      if IsSymbolic run then .symbol (String.ofList run)
      else .unrecognized (String.ofList run) := by
  have hnumeral : ¬Text.isNumeral (Text.splitSign run).2 :=
    fun hnumeral => h _ (hasValue_iff.2 ⟨hnumeral, rfl⟩)
  rw [Kind.ofRun]
  dsimp only
  rw [if_neg hnumeral]
  have hsymbolic :
      (!run.head?.any Char.isDigit && run.all isSymbolChar) = true ↔ IsSymbolic run := by
    rw [IsSymbolic, Bool.and_eq_true, List.all_eq_true]
    cases run <;> simp
  simp only [hsymbolic]

theorem ofRun_eq_integer_iff {n : Int64} :
    Kind.ofRun run = .integer n ↔ HasValue run n.toInt := by
  constructor
  · intro h
    by_cases hvalue : ∃ m, HasValue run m
    · obtain ⟨m, hm⟩ := hvalue
      rw [ofRun_of_hasValue hm] at h
      rcases hn : Text.int64? m with _ | n' <;> rw [hn] at h
      · cases h
      · obtain rfl := Kind.integer.inj h
        rwa [int64?_eq_some_iff.1 hn]
    · rw [ofRun_of_no_value (not_exists.1 hvalue)] at h
      split_ifs at h
  · intro h
    rw [ofRun_of_hasValue h, Text.int64?_toInt]
    rfl

theorem ofRun_eq_symbol_iff {name : String} :
    Kind.ofRun run = .symbol name ↔
      name = String.ofList run ∧ (∀ m, ¬HasValue run m) ∧ IsSymbolic run := by
  by_cases hvalue : ∃ m, HasValue run m
  · obtain ⟨m, hm⟩ := hvalue
    refine iff_of_false ?_ fun ⟨_, hno, _⟩ => hno m hm
    rw [ofRun_of_hasValue hm]
    rcases Text.int64? m with _ | n <;> simp
  · have hno := not_exists.1 hvalue
    rw [ofRun_of_no_value hno]
    split_ifs with hsymbolic
    · simp [hno, hsymbolic, eq_comm]
    · simp [hsymbolic]

theorem ofRun_eq_unrecognized_iff {text : String} :
    Kind.ofRun run = .unrecognized text ↔ text = String.ofList run ∧
      ((∃ m, HasValue run m ∧ (m < -2 ^ 63 ∨ 2 ^ 63 ≤ m)) ∨
        (∀ m, ¬HasValue run m) ∧ ¬IsSymbolic run) := by
  by_cases hvalue : ∃ m, HasValue run m
  · obtain ⟨m, hm⟩ := hvalue
    have hrange : (∃ m, HasValue run m ∧ (m < -2 ^ 63 ∨ 2 ^ 63 ≤ m)) ↔ Text.int64? m = none := by
      rw [← Option.not_isSome_iff_eq_none, Text.int64?_isSome_iff]
      constructor
      · rintro ⟨n, hn, hout⟩
        obtain rfl := hm.unique hn
        omega
      · intro hout
        exact ⟨m, hm, by omega⟩
    have hsome : ¬∀ m, ¬HasValue run m := fun hno => hno m hm
    rw [ofRun_of_hasValue hm, hrange]
    rcases Text.int64? m with _ | n <;> simp [hsome, eq_comm]
  · have hno := not_exists.1 hvalue
    rw [ofRun_of_no_value hno]
    split_ifs with hsymbolic
    · simp [hno, hsymbolic]
    · simp [hno, hsymbolic, eq_comm]

/-! ## Runs as tokens -/

/-- A run by itself is one token, at the start. -/
theorem tokenize_run {t : String} (hne : t ≠ "") (hrun : ∀ c ∈ t.toList, isRunChar c) :
    tokenize t = [⟨Kind.ofRun t.toList, 1, 1, 0, Text.byteLength t.toList⟩] := by
  have hnil : t.toList ≠ [] := by simpa using hne
  have hpieces : pieces t.toList = [t.toList] := by
    have hone := pieces_of_run hrun hnil startsApart_nil
    rwa [List.append_nil] at hone
  rw [tokenize, scan, hpieces, located, ofPiece?_of_run hrun]
  rfl

/-- Every run is one token. It is an integer if it has a value that fits 64 bits, a symbol if it has
    no value and looks like one, and unrecognized otherwise; so a value that does not fit is never
    taken for another one, nor for a symbol. An integer in decimal is read as that integer. -/
theorem read_as_one :
    (∀ t : String, t ≠ "" → (∀ c ∈ t.toList, isBlank c = false ∧ isDelimiter c = false) →
      ∃ kind, tokenize t = [⟨kind, 1, 1, 0, Text.byteLength t.toList⟩] ∧
        (∀ m : Int, (∃ n : Int64, kind = .integer n ∧ n.toInt = m) ↔
          HasValue t.toList m ∧ -2 ^ 63 ≤ m ∧ m ≤ 2 ^ 63 - 1) ∧
        (∀ name, kind = .symbol name ↔
          name = t ∧ (∀ m, ¬HasValue t.toList m) ∧ IsSymbolic t.toList) ∧
        (∀ text, kind = .unrecognized text ↔ text = t ∧
          ((∃ m, HasValue t.toList m ∧ (m < -2 ^ 63 ∨ 2 ^ 63 ≤ m)) ∨
            (∀ m, ¬HasValue t.toList m) ∧ ¬IsSymbolic t.toList))) ∧
    ∀ n : Int64, (tokenize (toString n.toInt)).map kind = [.integer n] := by
  constructor
  · intro t hne hchars
    have hrun : ∀ c ∈ t.toList, isRunChar c := by
      intro c hc
      obtain ⟨hblank, hdelimiter⟩ := hchars c hc
      rw [isRunChar, hblank, hdelimiter]
      rfl
    have hself : String.ofList t.toList = t := String.ofList_toList
    refine ⟨Kind.ofRun t.toList, tokenize_run hne hrun, fun m => ?_, fun name => ?_, fun text => ?_⟩
    · simp only [ofRun_eq_integer_iff]
      constructor
      · rintro ⟨n, hvalue, rfl⟩
        have hlow := Int64.le_toInt n
        have hhigh := Int64.toInt_lt n
        exact ⟨hvalue, by omega, by omega⟩
      · rintro ⟨hvalue, hlow, hhigh⟩
        obtain ⟨n, hn⟩ := Option.isSome_iff_exists.1
          (Text.int64?_isSome_iff.2 ⟨by omega, by omega⟩ : (Text.int64? m).isSome)
        obtain rfl := int64?_eq_some_iff.1 hn
        exact ⟨n, hvalue, rfl⟩
    · rw [ofRun_eq_symbol_iff, hself]
    · rw [ofRun_eq_unrecognized_iff, hself]
  · intro n
    have hkinds := kinds_integer n startsApart_nil
    rw [List.append_nil] at hkinds
    rw [map_kind_tokenize, hkinds, kinds_nil]

/-- The number before the least one of 64 bits is not recognized. -/
theorem read_as_one_below_least :
    let t := "-9223372036854775809"
    t ≠ "" ∧ (∀ c ∈ t.toList, isBlank c = false ∧ isDelimiter c = false) ∧
      HasValue t.toList (-9223372036854775809) ∧
      tokenize t = [⟨.unrecognized t, 1, 1, 0, 20⟩] := by
  intro t
  have hne : t ≠ "" := by decide
  have hchars : ∀ c ∈ t.toList, isBlank c = false ∧ isDelimiter c = false := by
    have hall : t.toList.all fun c => !isBlank c && !isDelimiter c := by decide
    exact fun c hc => by simpa using List.all_eq_true.1 hall c hc
  have hvalue : HasValue t.toList (-9223372036854775809) := by
    have hplace : placeValue "9223372036854775809".toList = 9223372036854775809 := by
      simp [placeValue, Nat.ofDigits]
    have hminus := @HasValue.minus "9223372036854775809".toList (by decide)
      (List.all_eq_true.1 (by decide))
    have ht : t.toList = '-' :: "9223372036854775809".toList := by decide
    rw [hplace] at hminus
    rw [ht]
    exact_mod_cast hminus
  obtain ⟨kind, htokens, -, -, hkind⟩ := read_as_one.1 t hne hchars
  obtain rfl := (hkind t).2 ⟨rfl, .inl ⟨_, hvalue, .inl (by decide)⟩⟩
  have hlength : Text.byteLength t.toList = 20 := by decide
  rw [hlength] at htokens
  exact ⟨hne, hchars, hvalue, htokens⟩

end Formulary.Token
