import Formulary.Proofs.Json.Reading
import Mathlib.Data.List.Basic

/-!
# Where texts end

An object ends with its last brace. No word goes on there, so bytes behind it are scanned as if they
stood alone (`scanFrom_append`), and no lexeme is read after it. That holds of whatever text starts
with a brace and is read: so no beginning of an object is read, and more bytes leave an object what
it is only if they are spaces.

* `read?_eq_none_of_append`: an object that breaks off is not read;
* `read?_bytes_append`: an object with more bytes behind it.
-/

namespace Formulary.Json

/-! ## Scanning on -/

/-- Whether more bytes could belong to the lexeme. -/
def Lexeme.IsWord : Lexeme → Prop
  | null | bool _ | number _ => True
  | _ => False

theorem isWord_of_wordLexeme? {word : Bytes} {l : Lexeme} (h : wordLexeme? word = some l) :
    l.IsWord := by
  simp only [wordLexeme?] at h
  split_ifs at h
  · cases h; trivial
  · cases h; trivial
  · cases h; trivial
  · obtain ⟨n, -, rfl⟩ := Option.map_eq_some_iff.1 h
    trivial

/-- The lexemes that one byte completes and what is gathered then, whatever bytes follow. -/
def takeByte : Gathered → UInt8 → Option (List Lexeme × Gathered)
  | .nothing, b =>
    if isSpace b then some ([], .nothing)
    else if b = ascii '"' then some ([], .string [])
    else if isWordByte b then some ([], .word [b])
    else (punctuation? b).bind fun l => some ([l], .nothing)
  | .word gathered, b =>
    if isWordByte b then some ([], .word (b :: gathered))
    else (wordLexeme? gathered.reverse).bind fun l =>
      if isSpace b then some ([l], .nothing)
      else if b = ascii '"' then some ([l], .string [])
      else (punctuation? b).bind fun m => some ([l, m], .nothing)
  | .string gathered, b =>
    if b = ascii '"' then (stringLexeme? gathered.reverse).bind fun l => some ([l], .nothing)
    else if b = ascii '\\' then some ([], .escape (b :: gathered))
    else some ([], .string (b :: gathered))
  | .escape gathered, b => some ([], .string (b :: gathered))

/-- A text is scanned byte by byte. -/
theorem scanFrom_cons (gathered : Gathered) (b : UInt8) (rest : Bytes) :
    scanFrom gathered (b :: rest) = (takeByte gathered b).bind fun taken =>
      (scanFrom taken.2 rest).map (taken.1 ++ ·) := by
  cases gathered with
  | nothing =>
    simp only [scanFrom, takeByte]
    split_ifs <;> simp [Option.bind_assoc]
  | word gathered =>
    simp only [scanFrom, takeByte]
    split_ifs <;> simp [Option.bind_assoc]
  | string gathered =>
    simp only [scanFrom, takeByte]
    split_ifs <;> simp [Option.bind_assoc]
  | escape gathered => simp [scanFrom, takeByte]

/-- What has been gathered is not lost before it is a lexeme. -/
theorem ne_nothing_of_takeByte {gathered next : Gathered} {b : UInt8} (h : gathered ≠ .nothing)
    (htake : takeByte gathered b = some ([], next)) : next ≠ .nothing := by
  rintro rfl
  cases gathered with
  | nothing => exact h rfl
  | word gathered =>
    simp only [takeByte] at htake
    split_ifs at htake <;> simp [Option.bind_eq_some_iff] at htake
  | string gathered =>
    simp only [takeByte] at htake
    split_ifs at htake <;> simp [Option.bind_eq_some_iff] at htake
  | escape gathered => simp [takeByte] at htake

/-- Bytes behind a text that does not end with a word are scanned as if they stood alone. -/
theorem scanFrom_append {gathered : Gathered} {text : Bytes} {ls : List Lexeme}
    (h : scanFrom gathered text = some ls) (hlast : ∀ l ∈ ls.getLast?, ¬l.IsWord) (more : Bytes) :
    scanFrom gathered (text ++ more) = (scanFrom .nothing more).map (ls ++ ·) := by
  induction text generalizing gathered ls with
  | nil =>
    cases gathered with
    | nothing =>
      cases h
      simp
    | word gathered =>
      obtain ⟨l, hl, h⟩ := Option.bind_eq_some_iff.1 h
      cases h
      exact absurd (isWord_of_wordLexeme? hl) (hlast l rfl)
    | string | escape => cases h
  | cons b text ih =>
    rw [scanFrom_cons] at h
    obtain ⟨⟨front, next⟩, htake, h⟩ := Option.bind_eq_some_iff.1 h
    obtain ⟨ms, hms, rfl⟩ := Option.map_eq_some_iff.1 h
    have hlast' : ∀ l ∈ ms.getLast?, ¬l.IsWord := by
      intro l hl
      refine hlast l ?_
      rw [List.getLast?_append, Option.mem_def.1 hl]
      rfl
    rw [List.cons_append, scanFrom_cons, htake, Option.bind_some, ih hms hlast', Option.map_map]
    simp only [Function.comp_def, List.append_assoc]

/-- What has been gathered becomes a lexeme, or nothing is scanned. -/
theorem scanFrom_ne_nil {gathered : Gathered} (h : gathered ≠ .nothing) (text : Bytes) :
    scanFrom gathered text ≠ some [] := by
  induction text generalizing gathered with
  | nil =>
    cases gathered with
    | nothing => exact absurd rfl h
    | word gathered => cases hl : wordLexeme? gathered.reverse <;> simp [scanFrom, hl]
    | string | escape => simp [scanFrom]
  | cons b text ih =>
    intro hscan
    rw [scanFrom_cons] at hscan
    obtain ⟨⟨front, next⟩, htake, hscan⟩ := Option.bind_eq_some_iff.1 hscan
    obtain ⟨ls, hls, hnil⟩ := Option.map_eq_some_iff.1 hscan
    obtain ⟨rfl, rfl⟩ := List.append_eq_nil_iff.1 hnil
    exact ih (ne_nothing_of_takeByte h htake) hls

/-- Spaces alone hold no lexeme. -/
theorem scan_eq_nil_iff {text : Bytes} : scan text = some [] ↔ text.all isSpace := by
  rw [scan]
  induction text with
  | nil => simp [scanFrom]
  | cons b text ih =>
    rw [List.all_cons, scanFrom]
    split_ifs with hspace hquote hword
    · rw [ih]
      simp [hspace]
    · simp [hspace, scanFrom_ne_nil]
    · simp [hspace, scanFrom_ne_nil]
    · cases punctuation? b <;> simp [hspace]

/-! ## Reading on -/

namespace Progress

/-- Something has been read, so a value is to come inside another one only. -/
def IsUnderway : Progress → Prop
  | value [] => False
  | _ => True

theorem isUnderway_supply (w : Written) (around : List Around) : (supply w around).IsUnderway := by
  rcases around with _ | ⟨_ | _, _⟩ <;> trivial

theorem isUnderway_of_startValue {around : List Around} {l : Lexeme} {p : Progress}
    (h : startValue around l = some p) : p.IsUnderway := by
  cases l <;> cases h
  all_goals first | exact isUnderway_supply _ _ | trivial

theorem isUnderway_of_step {p q : Progress} {l : Lexeme} (h : p.step l = some q) :
    q.IsUnderway := by
  cases p with
  | value around => exact isUnderway_of_startValue h
  | arrayStart around =>
    by_cases hclose : l = .closeBracket
    · subst hclose
      cases h
      exact isUnderway_supply _ _
    · rw [step] at h
      · exact isUnderway_of_startValue h
      · exact hclose
  | _ =>
    cases l <;> cases h
    all_goals first | exact isUnderway_supply _ _ | trivial

/-- A value inside another one does not complete the text, so what completes it is no word. -/
theorem not_isWord_of_step_complete {p : Progress} {l : Lexeme} {w : Written} (hp : p.IsUnderway)
    (h : p.step l = some (.complete w)) : ¬l.IsWord := by
  cases p with
  | value around =>
    rcases around with _ | ⟨_ | _, _⟩
    · exact hp.elim
    all_goals
      cases l <;> cases h
  | _ => cases l <;> first | exact id | cases h

theorem not_isWord_of_run_complete {p : Progress} {ls : List Lexeme} {w : Written}
    (hp : p.IsUnderway) (h : p.run ls = some (.complete w)) : ∀ l ∈ ls.getLast?, ¬l.IsWord := by
  induction ls generalizing p with
  | nil => simp
  | cons l ls ih =>
    obtain ⟨q, hq, hrun⟩ := Option.bind_eq_some_iff.1 h
    cases ls with
    | nil =>
      cases hrun
      simpa using not_isWord_of_step_complete hp hq
    | cons m ms => exact ih (isUnderway_of_step hq) hrun

end Progress

/-! ## Whole texts -/

theorem read?_eq_some_iff {text : Bytes} {w : Written} : read? text = some w ↔
    ∃ ls, scan text = some ls ∧ Progress.run ls (.value []) = some (.complete w) := by
  simp only [read?, Progress.run, Option.bind_eq_bind, Option.bind_eq_some_iff]
  refine exists_congr fun ls => and_congr_right fun _ => ?_
  constructor
  · rintro ⟨p, hp, h⟩
    cases p <;> cases h
    exact hp
  · exact fun h => ⟨_, h, rfl⟩

/-- What starts with a brace ends with none of the lexemes that could go on. -/
theorem not_isWord_of_brace {text : Bytes} {ls : List Lexeme} {w : Written}
    (hscan : scan (ascii '\x7b' :: text) = some ls)
    (hrun : Progress.run ls (.value []) = some (.complete w)) : ∀ l ∈ ls.getLast?, ¬l.IsWord := by
  have hbrace : punctuation? (ascii '\x7b') = some .openBrace := by decide
  rw [scan, (scanFrom_punctuation hbrace).2] at hscan
  obtain ⟨ms, -, rfl⟩ := Option.map_eq_some_iff.1 hscan
  rw [Progress.run_cons (q := .objectStart []) rfl] at hrun
  have hlast := Progress.not_isWord_of_run_complete (p := .objectStart []) trivial hrun
  cases ms with
  | nil => cases hrun
  | cons m ms => exact hlast

/-- Behind a text that starts with a brace there may be spaces and nothing else. -/
theorem read?_append {text : Bytes} {w : Written} (h : read? (ascii '\x7b' :: text) = some w)
    (more : Bytes) : read? (ascii '\x7b' :: text ++ more) =
      if more.all isSpace then some w else none := by
  obtain ⟨ls, hscan, hrun⟩ := read?_eq_some_iff.1 h
  have hmore : scan (ascii '\x7b' :: text ++ more) = (scan more).map (ls ++ ·) :=
    scanFrom_append hscan (not_isWord_of_brace hscan hrun) more
  split_ifs with hspaces
  · rw [scan_eq_nil_iff.2 hspaces, Option.map_some, List.append_nil] at hmore
    exact read?_eq_some_iff.2 ⟨ls, hmore, hrun⟩
  · refine Option.eq_none_iff_forall_ne_some.2 fun v hv => ?_
    obtain ⟨_, hms, hrun'⟩ := read?_eq_some_iff.1 hv
    rw [hmore] at hms
    obtain ⟨ns, hns, rfl⟩ := Option.map_eq_some_iff.1 hms
    rw [Progress.run, List.foldlM_append, ← Progress.run, hrun] at hrun'
    cases ns with
    | nil => exact hspaces (scan_eq_nil_iff.1 hns)
    -- no step leads on from what is complete
    | cons l ns => cases hrun'

variable {members : List (String × Json)}

/-- An object stays what it is with spaces behind it, and with anything else is none. -/
theorem read?_bytes_append (h : (object members).IsExact) (more : Bytes) :
    read? ((object members).bytes ++ more) =
      if more.all isSpace then some (object members).asWritten else none := by
  have hread := read?_bytes h
  rw [bytes_object] at hread ⊢
  exact read?_append hread more

/-- An object that breaks off is not read. -/
theorem read?_eq_none_of_append (h : (object members).IsExact) {text more : Bytes}
    (heq : text ++ more = (object members).bytes) (hmore : more ≠ []) : read? text = none := by
  refine Option.eq_none_iff_forall_ne_some.2 fun w hw => ?_
  have hwhole := read?_bytes h
  rw [bytes_object] at heq hwhole
  -- what is missing has the last brace in it, which is no space
  have hlast : ascii '\x7d' ∈ more := by
    have hgetLast := congrArg List.getLast? heq
    rw [← List.cons_append, List.getLast?_concat,
      List.getLast?_append_of_ne_nil _ hmore] at hgetLast
    exact List.mem_of_getLast? hgetLast
  cases text with
  | nil => cases hw
  | cons b text =>
    obtain rfl : b = ascii '\x7b' := (List.cons.inj heq).1
    rw [← heq, read?_append hw, if_neg] at hwhole
    · cases hwhole
    · intro hspaces
      exact absurd (List.all_eq_true.1 hspaces _ hlast) (by decide)

end Formulary.Json
