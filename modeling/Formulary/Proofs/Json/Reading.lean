import Formulary.Json.Read
import Formulary.Proofs.Json.Strings
import Formulary.Proofs.Json.Words

/-!
# Written values read back

A value whose numbers are integers of a machine word is read as it was written. Scanning gives the
lexemes of the value, one by one and in order (`IsExact.scansAs`), and these complete the value
where one is to come (`completes`).

* `IsExact`: the values that are read back, doubles being left out;
* `lexemes`: what a value is scanned as;
* `read?_bytes`: a value that was written is read.
-/

namespace Formulary.Json

/-- All numbers in the value are integers that fit a word. -/
inductive IsExact : Json → Prop
  | null : IsExact .null
  | bool (value : Bool) : IsExact (.bool value)
  | int {n : Int} (h : FitsWord n) : IsExact (.int n)
  | string (value : String) : IsExact (.string value)
  | array {items : List Json} (h : ∀ v ∈ items, IsExact v) : IsExact (.array items)
  | object {members : List (String × Json)} (h : ∀ m ∈ members, IsExact m.2) :
      IsExact (.object members)

mutual

/-- The lexemes that a value is written in. -/
def lexemes : Json → List Lexeme
  | null => [.null]
  | bool b => [.bool b]
  | number n => [.number (some n)]
  | string s => [.string (some s)]
  | array items => .openBracket :: (itemLexemes items ++ [.closeBracket])
  | object members => .openBrace :: (memberLexemes members ++ [.closeBrace])

/-- The lexemes of items with commas between them. -/
def itemLexemes : List Json → List Lexeme
  | [] => []
  | [v] => v.lexemes
  | v :: vs => v.lexemes ++ .comma :: itemLexemes vs

/-- The lexemes of members with commas between them. -/
def memberLexemes : List (String × Json) → List Lexeme
  | [] => []
  | [(key, v)] => .string (some key) :: .colon :: v.lexemes
  | (key, v) :: ms => .string (some key) :: .colon :: (v.lexemes ++ .comma :: memberLexemes ms)

end

/-! ## Scanning -/

/-- The text is scanned as the lexemes, provided that no word at its end goes on. -/
def ScansAs (text : Bytes) (ls : List Lexeme) : Prop :=
  ∀ rest, EndsWord rest → scanFrom .nothing (text ++ rest) = (scanFrom .nothing rest).map (ls ++ ·)

theorem scansAs_nil : ScansAs [] [] := by
  intro rest _
  simp

theorem scansAs_word {word : Bytes} {l : Lexeme} (hword : word.all isWordByte) (hne : word ≠ [])
    (hl : wordLexeme? word = some l) : ScansAs word [l] := by
  intro rest hrest
  exact scanFrom_word (List.all_eq_true.1 hword) hne hrest hl

/-- A byte that is a lexeme by itself is scanned as this lexeme, and ends a word. -/
theorem scanFrom_punctuation {b : UInt8} {l : Lexeme} (h : punctuation? b = some l) :
    isWordByte b = false ∧
      ∀ rest, scanFrom .nothing (b :: rest) = (scanFrom .nothing rest).map (l :: ·) := by
  have hapart : isSpace b = false ∧ b ≠ ascii '"' ∧ isWordByte b = false := by
    rw [punctuation?] at h
    -- six bytes are lexemes by themselves
    split_ifs at h with hb hb hb hb hb hb <;> rw [hb] <;> decide
  obtain ⟨hspace, hquote, hword⟩ := hapart
  refine ⟨hword, fun rest => ?_⟩
  rw [scanFrom, hspace, hword, h, if_neg Bool.false_ne_true, if_neg hquote,
    if_neg Bool.false_ne_true]
  rfl

namespace ScansAs

variable {s t : Bytes} {ls ms : List Lexeme}

theorem punctuation_cons {b : UInt8} {l : Lexeme} (ht : ScansAs t ms)
    (h : punctuation? b = some l) : ScansAs (b :: t) (l :: ms) := by
  intro rest hrest
  rw [List.cons_append, (scanFrom_punctuation h).2, ht rest hrest, Option.map_map]
  rfl

/-- Punctuation parts what stands before it from what follows. -/
theorem append_punctuation {b : UInt8} {l : Lexeme} (hs : ScansAs s ls)
    (h : punctuation? b = some l) (ht : ScansAs t ms) : ScansAs (s ++ b :: t) (ls ++ l :: ms) := by
  intro rest hrest
  have hends : EndsWord (b :: t ++ rest) := endsWord_cons.2 (scanFrom_punctuation h).1
  rw [List.append_assoc, hs _ hends, ht.punctuation_cons h rest hrest, Option.map_map]
  simp only [Function.comp_def, List.append_assoc]

theorem writeString_append (key : String) (ht : ScansAs t ms) :
    ScansAs (Bytes.ofText (writeString key) ++ t) (.string (some key) :: ms) := by
  intro rest hrest
  rw [List.append_assoc, scanFrom_writeString, ht rest hrest, Option.map_map]
  rfl

end ScansAs

theorem scansAs_items {items : List Json} (h : ∀ v ∈ items, ScansAs v.bytes v.lexemes) :
    ScansAs (Bytes.ofText (compactItems items)) (itemLexemes items) := by
  induction items with
  | nil => exact scansAs_nil
  | cons v vs ih =>
    obtain ⟨hv, hvs⟩ := List.forall_mem_cons.1 h
    cases vs with
    | nil => exact hv
    | cons w ws =>
      have hbytes : Bytes.ofText (compactItems (v :: w :: ws)) =
          v.bytes ++ ascii ',' :: Bytes.ofText (compactItems (w :: ws)) := by
        rw [compactItems, Bytes.ofText_append, Bytes.ofText_append, List.append_assoc]
        · rfl
        · simp
      rw [hbytes]
      exact hv.append_punctuation (by decide) (ih hvs)

theorem scansAs_members {members : List (String × Json)}
    (h : ∀ m ∈ members, ScansAs m.2.bytes m.2.lexemes) :
    ScansAs (Bytes.ofText (compactMembers members)) (memberLexemes members) := by
  -- a key and its value, as the last member or in front of others
  have hmember (key : String) {t : Bytes} {ms : List Lexeme} (ht : ScansAs t ms) :
      ScansAs (Bytes.ofText (writeString key) ++ ascii ':' :: t)
        (.string (some key) :: .colon :: ms) :=
    (ht.punctuation_cons (by decide)).writeString_append key
  induction members with
  | nil => exact scansAs_nil
  | cons m ms ih =>
    obtain ⟨key, v⟩ := m
    obtain ⟨hv, hms⟩ := List.forall_mem_cons.1 h
    cases ms with
    | nil =>
      have hbytes : Bytes.ofText (compactMembers [(key, v)]) =
          Bytes.ofText (writeString key) ++ ascii ':' :: v.bytes := by
        rw [compactMembers, Bytes.ofText_append, Bytes.ofText_append, List.append_assoc]
        rfl
      rw [hbytes]
      exact hmember key hv
    | cons n ns =>
      have hbytes : Bytes.ofText (compactMembers ((key, v) :: n :: ns)) =
          Bytes.ofText (writeString key) ++
            ascii ':' :: (v.bytes ++ ascii ',' :: Bytes.ofText (compactMembers (n :: ns))) := by
        rw [compactMembers]
        · simp only [Bytes.ofText_append, List.append_assoc]
          rfl
        · simp
      rw [hbytes]
      exact hmember key (hv.append_punctuation (by decide) (ih hms))

theorem bytes_object (members : List (String × Json)) : bytes (.object members) =
    ascii '\x7b' :: (Bytes.ofText (compactMembers members) ++ [ascii '\x7d']) := by
  rw [bytes, compact, Bytes.ofText_append, Bytes.ofText_append]
  rfl

/-- An exact value is scanned as its lexemes. -/
theorem IsExact.scansAs {v : Json} (h : v.IsExact) : ScansAs v.bytes v.lexemes := by
  induction h with
  | null => exact scansAs_word (by decide) (by decide) (by decide)
  | bool value =>
    cases value with
    | false => exact scansAs_word (by decide) (by decide) (by decide)
    | true => exact scansAs_word (by decide) (by decide) (by decide)
  | int h => exact fun rest hrest => scanFrom_integer h hrest
  | string value => exact fun rest _ => scanFrom_writeString value rest
  | @array items _ ih =>
    have hbytes : bytes (.array items) =
        ascii '[' :: (Bytes.ofText (compactItems items) ++ [ascii ']']) := by
      rw [bytes, compact, Bytes.ofText_append, Bytes.ofText_append]
      rfl
    rw [hbytes]
    exact ((scansAs_items ih).append_punctuation (by decide) scansAs_nil).punctuation_cons
      (by decide)
  | @object members _ ih =>
    rw [bytes_object]
    exact ((scansAs_members ih).append_punctuation (by decide) scansAs_nil).punctuation_cons
      (by decide)

/-! ## Completing values -/

/-- How far reading has come after further lexemes. -/
def Progress.run (ls : List Lexeme) (p : Progress) : Option Progress :=
  ls.foldlM Progress.step p

theorem Progress.run_cons {p q : Progress} {l : Lexeme} (h : p.step l = some q)
    (ls : List Lexeme) : p.run (l :: ls) = q.run ls := by
  rw [run, List.foldlM_cons, h]
  rfl

/-- The lexemes of a value complete it wherever one is to come. -/
def Completes (v : Json) : Prop :=
  ∀ around more, Progress.run (v.lexemes ++ more) (.value around) =
    (Progress.supply v.asWritten around).run more

/-- The first item is read like any other, for no value begins as an array ends. -/
theorem run_arrayStart (v : Json) (around : List Around) (more : List Lexeme) :
    Progress.run (v.lexemes ++ more) (.arrayStart around) =
      Progress.run (v.lexemes ++ more) (.value (.items #[] :: around)) := by
  cases v <;> rfl

theorem run_itemLexemes {v : Json} {vs : List Json} (h : ∀ w ∈ v :: vs, w.Completes)
    (before : Array Written) (around : List Around) (more : List Lexeme) :
    Progress.run (itemLexemes (v :: vs) ++ .closeBracket :: more)
        (.value (.items before :: around)) =
      (Progress.supply (.array (before.toList ++ itemsAsWritten (v :: vs))) around).run more := by
  induction vs generalizing v before with
  | nil =>
    obtain ⟨hv, -⟩ := List.forall_mem_cons.1 h
    rw [itemLexemes, hv, Progress.supply, Progress.run_cons rfl, Array.toList_push]
    rfl
  | cons w ws ih =>
    obtain ⟨hv, hws⟩ := List.forall_mem_cons.1 h
    rw [itemLexemes.eq_3 _ _ (by simp), List.append_assoc, hv, Progress.supply, List.cons_append,
      Progress.run_cons rfl, ih hws, Array.toList_push, List.append_assoc]
    rfl

theorem run_memberLexemes {m : String × Json} {ms : List (String × Json)}
    (h : ∀ n ∈ m :: ms, n.2.Completes) (before : Array (Option String × Written))
    (around : List Around) (more : List Lexeme) :
    Progress.run (memberLexemes (m :: ms) ++ .closeBrace :: more) (.nextKey before around) =
      (Progress.supply (.object (before.toList ++ membersAsWritten (m :: ms))) around).run
        more := by
  induction ms generalizing m before with
  | nil =>
    obtain ⟨hm, -⟩ := List.forall_mem_cons.1 h
    rw [memberLexemes, List.cons_append, Progress.run_cons rfl, List.cons_append,
      Progress.run_cons rfl, hm, Progress.supply, Progress.run_cons rfl, Array.toList_push]
    rfl
  | cons n ns ih =>
    obtain ⟨hm, hns⟩ := List.forall_mem_cons.1 h
    rw [memberLexemes.eq_3 _ _ _ (by simp), List.cons_append, Progress.run_cons rfl,
      List.cons_append, Progress.run_cons rfl, List.append_assoc, hm, Progress.supply,
      List.cons_append, Progress.run_cons rfl, ih hns, Array.toList_push, List.append_assoc]
    rfl

/-- Every value is completed by its lexemes. -/
theorem completes (v : Json) : v.Completes := by
  induction v with
  | null | bool | number | string => exact fun around more => Progress.run_cons rfl more
  | array items ih =>
    intro around more
    rw [lexemes, List.cons_append, Progress.run_cons rfl, List.append_assoc]
    cases items with
    | nil => exact Progress.run_cons rfl more
    | cons v vs =>
      have hfirst : Progress.run (itemLexemes (v :: vs) ++ .closeBracket :: more)
          (.arrayStart around) = Progress.run (itemLexemes (v :: vs) ++ .closeBracket :: more)
            (.value (.items #[] :: around)) := by
        cases vs with
        | nil => exact run_arrayStart v around _
        | cons w ws =>
          rw [itemLexemes.eq_3 _ _ (by simp), List.append_assoc]
          exact run_arrayStart v around _
      exact hfirst.trans (run_itemLexemes ih #[] around more)
  | object members ih =>
    intro around more
    rw [lexemes, List.cons_append, Progress.run_cons rfl, List.append_assoc]
    cases members with
    | nil => exact Progress.run_cons rfl more
    | cons m ms =>
      -- the first key is read like any other
      have hfirst : Progress.run (memberLexemes (m :: ms) ++ .closeBrace :: more)
          (.objectStart around) = Progress.run (memberLexemes (m :: ms) ++ .closeBrace :: more)
            (.nextKey #[] around) := by
        cases ms <;> rfl
      exact hfirst.trans (run_memberLexemes ih #[] around more)

/-- An exact value that was written is read. -/
theorem read?_bytes {v : Json} (h : v.IsExact) : read? v.bytes = some v.asWritten := by
  have hscan := h.scansAs [] endsWord_nil
  have hrun := completes v [] []
  rw [List.append_nil, scanFrom, Option.map_some, List.append_nil] at hscan
  rw [List.append_nil] at hrun
  have hcomplete : v.lexemes.foldlM Progress.step (.value []) = some (.complete v.asWritten) := hrun
  simp only [read?, scan, hscan, Option.bind_eq_bind, Option.bind_some, hcomplete]

end Formulary.Json
