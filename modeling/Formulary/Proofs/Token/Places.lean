import Formulary.Proofs.Token.Kinds
import Mathlib.Data.List.TakeWhile

/-!
# Where the tokens of a text stand

The tokens of a text stand one after the other, each spelled by the characters at its place, and
there is nothing but blanks between them. A relation says so step by step: characters are blanks,
or a delimiter, or a run that goes on as far as it can (`LaidOut`). That scanning finds the tokens
in this way is `laidOut_scan`; what is said of their places follows from it, one property at a time.

* `Place.past_start`: a place is known from the characters before it, by counting;
* `located_in_source`: where the tokens of a source stand, and that nothing of it is lost.
-/

namespace Formulary

open Text (byteLength isBlank)

/-! ## Places by counting -/

/-- The place after some characters of a text: line feeds are counted from one, the characters
    since the last of them from one, and bytes from zero. -/
def Place.after (cs : List Char) : Place :=
  ⟨1 + cs.count '\n', 1 + (cs.reverse.takeWhile (· ≠ '\n')).length, byteLength cs⟩

theorem Place.past_start (cs : List Char) : start.past cs = after cs := by
  induction cs using List.reverseRecOn with
  | nil => rfl
  | append_singleton cs c ih =>
    rw [past_append, ih, past_cons, past_nil, next]
    split_ifs with hc
    · simp [after, hc, Nat.add_assoc]
    · simp [after, hc, Nat.add_assoc]

theorem Place.past_after (before cs : List Char) :
    (after before).past cs = after (before ++ cs) := by
  rw [← past_start, ← past_start, past_append]

namespace Token

/-! ## Spellings -/

/-- Whether a token is one of the characters that are tokens by themselves. -/
def Kind.isDelimiter : Kind → Bool
  | openParen | closeParen | openBracket | closeBracket => true
  | _ => false

/-- The text spells the kind: a delimiter is itself, the text of a symbol or of what is not
    recognized stands as it is, and a number is written in digits after an optional sign. -/
def Spells (text : List Char) : Kind → Prop
  | .openParen => text = ['(']
  | .closeParen => text = [')']
  | .openBracket => text = ['[']
  | .closeBracket => text = [']']
  | .symbol name => text = name.toList
  | .unrecognized found => text = found.toList
  | .integer n => ∃ digits, Text.isNumeral digits ∧
      (text = digits ∧ n.toInt = Text.ofDigits digits ∨
        text = '+' :: digits ∧ n.toInt = Text.ofDigits digits ∨
        text = '-' :: digits ∧ n.toInt = -Text.ofDigits digits)

theorem toInt_of_int64? {i : Int} {n : Int64} (h : Text.int64? i = some n) : n.toInt = i := by
  have hmax : Int64.maxValue.toInt = 2 ^ 63 - 1 := by decide
  rw [Text.int64?] at h
  split_ifs at h with hi
  obtain rfl := Option.some.inj h
  exact Int64.toInt_ofInt_of_le hi.1 (by omega)

/-- A run is read as what it spells. -/
theorem spells_ofRun (text : List Char) : Spells text (Kind.ofRun text) := by
  have hself : text = (String.ofList text).toList := String.toList_ofList.symm
  rw [Kind.ofRun]
  rcases hsign : Text.splitSign text with ⟨negative, digits⟩
  dsimp only
  split_ifs with hdigits hsymbol
  · split
    · rename_i n hn
      have hvalue := toInt_of_int64? hn
      refine ⟨digits, hdigits, ?_⟩
      -- a number has the sign that stands in front of it, if one does
      rw [Text.splitSign.eq_def] at hsign
      split at hsign
      · obtain ⟨rfl, rfl⟩ := Prod.mk.inj hsign
        exact .inr (.inr ⟨rfl, hvalue⟩)
      · obtain ⟨rfl, rfl⟩ := Prod.mk.inj hsign
        exact .inr (.inl ⟨rfl, hvalue⟩)
      · obtain ⟨rfl, rfl⟩ := Prod.mk.inj hsign
        exact .inl ⟨rfl, hvalue⟩
    · exact hself
  · exact hself
  · exact hself

/-- A piece that is a token is a delimiter, or a run and read as one. -/
theorem ofPiece?_cases {text : List Char} {kind : Kind} (h : Kind.ofPiece? text = some kind) :
    (∃ c, text = [c] ∧ isDelimiter c ∧ kind.isDelimiter ∧ Spells text kind) ∨
      (∀ c ∈ text, isRunChar c) ∧ kind = Kind.ofRun text := by
  unfold Kind.ofPiece? at h
  split at h
  · exact .inl ⟨_, rfl, rfl, Option.some.inj h ▸ rfl, Option.some.inj h ▸ rfl⟩
  · exact .inl ⟨_, rfl, rfl, Option.some.inj h ▸ rfl, Option.some.inj h ▸ rfl⟩
  · exact .inl ⟨_, rfl, rfl, Option.some.inj h ▸ rfl, Option.some.inj h ▸ rfl⟩
  · exact .inl ⟨_, rfl, rfl, Option.some.inj h ▸ rfl, Option.some.inj h ▸ rfl⟩
  · split_ifs at h with hrun
    exact .inr ⟨List.all_eq_true.1 hrun, (Option.some.inj h).symm⟩

/-! ## Columns -/

/-- Without a line feed among them, characters take one column each. -/
theorem past_of_no_lineFeed {cs : List Char} (h : '\n' ∉ cs) (p : Place) :
    (p.past cs).line = p.line ∧ (p.past cs).column = p.column + cs.length := by
  induction cs generalizing p with
  | nil => exact ⟨rfl, rfl⟩
  | cons c cs ih =>
    obtain ⟨hc, hcs⟩ := List.ne_and_not_mem_of_not_mem_cons h
    obtain ⟨hline, hcolumn⟩ := ih hcs (p.next c)
    rw [Place.next, if_neg hc.symm] at hline hcolumn
    rw [Place.past_cons, Place.next, if_neg hc.symm, hline, hcolumn, List.length_cons]
    exact ⟨rfl, by rw [Nat.add_assoc, Nat.add_comm 1]⟩

theorem utf8Size_of_isDigit {c : Char} (h : c.isDigit) : c.utf8Size = 1 := by
  rw [Char.utf8Size_eq_one_iff]
  simp only [Char.isDigit, Bool.and_eq_true, decide_eq_true_eq] at h
  exact UInt32.le_trans h.2 (by decide)

/-- A written number has one byte for each character. -/
theorem byteLength_of_integer {text : List Char} {n : Int64} (h : Spells text (.integer n)) :
    byteLength text = text.length := by
  obtain ⟨digits, hdigits, htext⟩ := h
  rw [Text.isNumeral, Bool.and_eq_true, List.all_eq_true] at hdigits
  have ascii : ∀ c ∈ digits, c.utf8Size = 1 := fun c hc => utf8Size_of_isDigit (hdigits.2 c hc)
  apply Text.byteLength_of_ascii
  rcases htext with ⟨rfl, -⟩ | ⟨rfl, -⟩ | ⟨rfl, -⟩
  · exact ascii
  · exact List.forall_mem_cons.2 ⟨by decide, ascii⟩
  · exact List.forall_mem_cons.2 ⟨by decide, ascii⟩

/-- What is a token has no line feed in it. -/
theorem lineFeed_notMem {text : List Char} {kind : Kind} (h : Kind.ofPiece? text = some kind) :
    '\n' ∉ text := by
  intro hmem
  rcases ofPiece?_cases h with ⟨c, rfl, hc, -⟩ | ⟨hrun, -⟩
  · obtain rfl := List.mem_singleton.1 hmem
    exact absurd hc (by decide)
  · exact absurd (hrun _ hmem) (by decide)

/-- A token is as wide as its text is long, be that counted in characters or in bytes. -/
theorem width_of_ofPiece? {text : List Char} {t : Token} (h : Kind.ofPiece? text = some t.kind)
    (hlength : t.length = byteLength text) : t.width = text.length := by
  have hspells : Spells text t.kind := by
    rcases ofPiece?_cases h with ⟨-, -, -, -, hspells⟩ | ⟨-, hkind⟩
    · exact hspells
    · exact hkind ▸ spells_ofRun text
  unfold width
  generalize t.kind = kind at hspells
  cases kind with
  | symbol | unrecognized =>
    rw [show text = _ from hspells]
    exact String.length_toList.symm
  | integer =>
    exact hlength.trans (byteLength_of_integer hspells)
  | openParen | closeParen | openBracket | closeBracket =>
    rw [show text = _ from hspells] at hlength ⊢
    exact hlength

/-! ## Layout -/

/-- The token that a text is after the characters before it, with the place just past it. -/
def standing (before text : List Char) (kind : Kind) : Token × Place :=
  let place := Place.after before
  (⟨kind, place.line, place.column, place.offset, byteLength text⟩, Place.after (before ++ text))

/-- The tokens that characters are laid out in, after the characters before them. A blank is no
    token, and one that is a run goes on as far as it can. -/
inductive LaidOut : List Char → List Char → List (Token × Place) → Prop
  | nil (before : List Char) : LaidOut before [] []
  | blank {before rest : List Char} {c : Char} {ts : List (Token × Place)} (hc : isBlank c)
      (h : LaidOut (before ++ [c]) rest ts) : LaidOut before (c :: rest) ts
  | token {before text rest : List Char} {kind : Kind} {ts : List (Token × Place)}
      (hne : text ≠ []) (hkind : Kind.ofPiece? text = some kind)
      (hapart : (∀ c ∈ text, isRunChar c) → StartsApart rest)
      (h : LaidOut (before ++ text) rest ts) :
      LaidOut before (text ++ rest) (standing before text kind :: ts)

/-- A text is made of characters that are no run characters, and of runs up to where no run goes
    on. -/
theorem runs_induction {P : List Char → Prop} (nil : P [])
    (single : ∀ c rest, isRunChar c = false → P rest → P (c :: rest))
    (run : ∀ text rest, text ≠ [] → (∀ c ∈ text, isRunChar c) → StartsApart rest → P rest →
      P (text ++ rest)) (cs : List Char) : P cs := by
  induction hn : cs.length using Nat.strongRecOn generalizing cs with
  | ind n ih =>
    rcases cs with _ | ⟨c, cs⟩
    · exact nil
    rcases hc : isRunChar c with _ | _
    · exact single c cs hc (ih cs.length (by simp [← hn]) cs rfl)
    · -- the run goes on up to the first character that is none of a run
      have hsplit : c :: cs.takeWhile isRunChar ++ cs.dropWhile isRunChar = c :: cs := by simp
      have hlength := (List.dropWhile_suffix (l := cs) isRunChar).length_le
      rw [← hsplit]
      refine run _ _ (List.cons_ne_nil _ _) ?_ ?_ (ih _ (by simp [← hn]; omega) _ rfl)
      · exact List.forall_mem_cons.2 ⟨hc, fun d hd => List.mem_takeWhile_imp hd⟩
      · intro d hd
        have hhead := List.head?_dropWhile_not isRunChar cs
        rw [Option.mem_def.1 hd] at hhead
        exact hhead

theorem snd_located (p : Place) (ps : List (List Char)) : (located p ps).2 = p.past ps.flatten := by
  induction ps generalizing p with
  | nil => rfl
  | cons piece rest ih =>
    rw [located, List.flatten_cons, Place.past_append, ← ih]
    cases Kind.ofPiece? piece <;> rfl

theorem laidOut_located (cs before : List Char) :
    LaidOut before cs (located (Place.after before) (pieces cs)).1 := by
  induction cs using runs_induction generalizing before with
  | nil => exact .nil before
  | single c rest hc ih =>
    rw [pieces_of_not_run hc, located, Place.past_after]
    -- what is no run character is a delimiter or a blank
    rcases hkind : Kind.ofPiece? [c] with _ | kind
    · refine .blank ?_ (ih _)
      by_contra hblank
      have hdelimiter : isDelimiter c := by
        rw [isRunChar, Bool.eq_false_iff.2 hblank] at hc
        simpa using hc
      simp only [isDelimiter, Bool.or_eq_true, decide_eq_true_eq, or_assoc] at hdelimiter
      rcases hdelimiter with rfl | rfl | rfl | rfl <;> cases hkind
    · refine .token (List.cons_ne_nil _ _) hkind (fun hrun => ?_) (ih _)
      rw [hrun c List.mem_cons_self] at hc
      cases hc
  | run text rest hne hrun hapart ih =>
    rw [pieces_of_run hrun hne hapart, located, Place.past_after, ofPiece?_of_run hrun]
    exact .token hne (ofPiece?_of_run hrun) (fun _ => hapart) (ih _)

/-- The scan ends past all characters. -/
theorem endOf_eq (source : String) : endOf source = Place.after source.toList := by
  rw [endOf, snd_located, pieces, List.flatten_splitBy, Place.past_start]

theorem laidOut_scan (source : String) : LaidOut [] source.toList (scan source) :=
  laidOut_located source.toList []

namespace LaidOut

variable {before cs : List Char} {ts : List (Token × Place)}

/-- A token stands where its place says, and what stands there spells it. -/
theorem exists_text (h : LaidOut before cs ts) {t : Token × Place} (ht : t ∈ ts) :
    ∃ gap text after, cs = gap ++ text ++ after ∧ text ≠ [] ∧
      Kind.ofPiece? text = some t.1.kind ∧ t = standing (before ++ gap) text t.1.kind := by
  induction h with
  | nil => cases ht
  | @blank before rest c ts hc h ih =>
    obtain ⟨gap, text, after, rfl, hne, hkind, hstanding⟩ := ih ht
    exact ⟨c :: gap, text, after, by simp, hne, hkind, by simpa using hstanding⟩
  | @token before text rest kind ts hne hkind hapart h ih =>
    rcases List.mem_cons.1 ht with rfl | ht
    · exact ⟨[], text, rest, by simp, hne, hkind, by simp [standing]⟩
    · obtain ⟨gap, other, after, rfl, hne, hkind, hstanding⟩ := ih ht
      exact ⟨text ++ gap, other, after, by simp, hne, hkind, by simpa using hstanding⟩

theorem byteLength_le_offset (h : LaidOut before cs ts) {t : Token × Place} (ht : t ∈ ts) :
    byteLength before ≤ t.1.offset := by
  obtain ⟨gap, text, after, -, -, -, hstanding⟩ := h.exists_text ht
  rw [hstanding, standing, Place.after, Text.byteLength_append]
  exact Nat.le_add_right _ _

/-- A token ends before the next ones start. -/
theorem pairwise (h : LaidOut before cs ts) :
    (ts.map Prod.fst).Pairwise fun t u => t.offset + t.length ≤ u.offset := by
  induction h with
  | nil => exact .nil
  | blank hc h ih => exact ih
  | token hne hkind hapart h ih =>
    refine List.pairwise_cons.2 ⟨List.forall_mem_map.2 fun u hu => ?_, ih⟩
    rw [standing, Place.after, ← Text.byteLength_append]
    exact h.byteLength_le_offset hu

/-- Every character is a blank or a part of a token. -/
theorem blank_or_covered (h : LaidOut before cs ts) {gap after : List Char} {c : Char}
    (hcs : cs = gap ++ c :: after) : isBlank c ∨ ∃ t ∈ ts.map Prod.fst,
      t.offset ≤ byteLength (before ++ gap) ∧
      byteLength (before ++ gap) + c.utf8Size ≤ t.offset + t.length := by
  induction h generalizing gap with
  | nil => simp at hcs
  | @blank before rest d ts hd h ih =>
    rcases gap with _ | ⟨d', gap⟩
    · obtain ⟨rfl, -⟩ := List.cons.inj hcs
      exact .inl hd
    · obtain ⟨rfl, hrest⟩ := List.cons.inj hcs
      simpa using ih hrest
  | @token before text rest kind ts hne hkind hapart h ih =>
    rcases List.append_eq_append_iff.1 hcs with ⟨gap, rfl, hrest⟩ | ⟨tail, rfl, hrest⟩
    · -- the character comes after the token
      rcases ih hrest with hblank | ⟨t, ht, hle⟩
      · exact .inl hblank
      · exact .inr ⟨t, List.mem_cons_of_mem _ ht, by simpa using hle⟩
    · rcases tail with _ | ⟨d, tail⟩
      · have hhead : rest = [] ++ c :: after := hrest.symm
        rcases ih hhead with hblank | ⟨t, ht, hle⟩
        · exact .inl hblank
        · exact .inr ⟨t, List.mem_cons_of_mem _ ht, by simpa using hle⟩
      · -- it is one of the token
        obtain ⟨rfl, -⟩ := List.cons.inj hrest
        refine .inr ⟨_, List.mem_cons_self, ?_, ?_⟩
        · simp [standing, Place.after]
        · simp [standing, Place.after]
          omega

/-- Between a run and the next token, if that is a run as well, a blank comes first. -/
theorem exists_blank_of_startsApart (h : LaidOut before cs ts) (hapart : StartsApart cs)
    {u : Token × Place} {us : List (Token × Place)} (hts : ts = u :: us)
    (hu : u.1.kind.isDelimiter = false) : ∃ c rest, cs = c :: rest ∧ isBlank c ∧
      byteLength before + c.utf8Size ≤ u.1.offset := by
  subst hts
  cases h with
  | @blank _ rest c _ hc h =>
    refine ⟨c, rest, rfl, hc, ?_⟩
    simpa using h.byteLength_le_offset List.mem_cons_self
  | @token _ text rest kind _ hne hkind _ h =>
    obtain ⟨c, text, rfl⟩ := List.exists_cons_of_ne_nil hne
    rcases ofPiece?_cases hkind with ⟨-, -, -, hkind, -⟩ | ⟨hrun, -⟩
    · rw [standing, hkind] at hu
      cases hu
    · -- no run starts here
      have hc : isRunChar c = false := hapart c rfl
      rw [hrun c List.mem_cons_self] at hc
      cases hc

/-- Two runs in a row have a blank between them. -/
theorem exists_blank (h : LaidOut before cs ts) {past rest : List Token} {t u : Token}
    (hts : ts.map Prod.fst = past ++ t :: u :: rest) (ht : t.kind.isDelimiter = false)
    (hu : u.kind.isDelimiter = false) : ∃ gap c after, cs = gap ++ c :: after ∧ isBlank c ∧
      t.offset + t.length ≤ byteLength (before ++ gap) ∧
      byteLength (before ++ gap) + c.utf8Size ≤ u.offset := by
  induction h generalizing past with
  | nil => simp at hts
  | @blank before cs c ts hc h ih =>
    obtain ⟨gap, d, after, rfl, hd, hle⟩ := ih hts
    exact ⟨c :: gap, d, after, rfl, hd, by simpa using hle⟩
  | @token before text cs kind ts hne hkind hapart h ih =>
    rcases past with _ | ⟨s, past⟩
    · obtain ⟨rfl, hnext⟩ := List.cons.inj hts
      obtain ⟨u, us, rfl, rfl, -⟩ := List.map_eq_cons_iff.1 hnext
      have hrun : ∀ c ∈ text, isRunChar c := by
        rcases ofPiece?_cases hkind with ⟨-, -, -, hkind, -⟩ | ⟨hrun, -⟩
        · rw [standing, hkind] at ht
          cases ht
        · exact hrun
      obtain ⟨c, rest, rfl, hc, hle⟩ := h.exists_blank_of_startsApart (hapart hrun) rfl hu
      exact ⟨text, c, rest, rfl, hc, by simp [standing, Place.after], hle⟩
    · obtain ⟨-, hlater⟩ := List.cons.inj hts
      obtain ⟨gap, d, after, rfl, hd, hle⟩ := ih hlater
      exact ⟨text ++ gap, d, after, by simp, hd, by simpa using hle⟩

end LaidOut

/-- The place just past a token is its width away, on the same line. -/
theorem past_of_mem_scan {source : String} {t : Token} {past : Place}
    (h : (t, past) ∈ scan source) : past.line = t.line ∧ past.column = t.column + t.width := by
  obtain ⟨before, text, after, -, -, hkind, hstanding⟩ := (laidOut_scan source).exists_text h
  obtain ⟨ht, rfl⟩ := Prod.mk.inj hstanding
  have hwidth : t.width = text.length := width_of_ofPiece? hkind (by rw [ht])
  obtain ⟨hline, hcolumn⟩ := past_of_no_lineFeed (lineFeed_notMem hkind) (Place.after before)
  rw [List.nil_append, ← Place.past_after, hline, hcolumn, hwidth, ht]
  exact ⟨rfl, rfl⟩

/-- The tokens of a source stand in it one after the other, each where its place says and spelled by
    what stands there: a delimiter, or run characters. Between two runs there is a blank, and all
    that is outside of the tokens is blanks. The place past a token, and that past the whole source,
    is known from the characters before it. -/
theorem located_in_source (source : String) :
    (∀ t past, (t, past) ∈ scan source → ∃ before text after,
      source.toList = before ++ text ++ after ∧ text ≠ [] ∧ Spells text t.kind ∧
      (t.kind.isDelimiter = false → ∀ c ∈ text, isRunChar c) ∧
      t.offset = byteLength before ∧ t.length = byteLength text ∧
      t.line = 1 + before.count '\n' ∧
      t.column = 1 + (before.reverse.takeWhile (· ≠ '\n')).length ∧
      past = Place.after (before ++ text)) ∧
    (tokenize source).Pairwise (fun t u => t.offset + t.length ≤ u.offset) ∧
    (∀ past t u rest, tokenize source = past ++ t :: u :: rest →
      t.kind.isDelimiter = false → u.kind.isDelimiter = false → ∃ before c after,
        source.toList = before ++ c :: after ∧ isBlank c ∧
        t.offset + t.length ≤ byteLength before ∧ byteLength before + c.utf8Size ≤ u.offset) ∧
    (∀ before c after, source.toList = before ++ c :: after →
      isBlank c ∨ ∃ t ∈ tokenize source, t.offset ≤ byteLength before ∧
        byteLength before + c.utf8Size ≤ t.offset + t.length) ∧
    endOf source = Place.after source.toList := by
  have hlaid := laidOut_scan source
  refine ⟨fun t past ht => ?_, hlaid.pairwise, fun past t u rest hts ht hu => ?_,
    fun before c after hcs => ?_, endOf_eq source⟩
  · obtain ⟨before, text, after, hcs, hne, hkind, hstanding⟩ := hlaid.exists_text ht
    obtain ⟨ht, hpast⟩ := Prod.mk.inj hstanding
    have hspells : Spells text t.kind ∧ (t.kind.isDelimiter = false → ∀ c ∈ text, isRunChar c) := by
      rcases ofPiece?_cases hkind with ⟨-, -, -, hdelimiter, hspells⟩ | ⟨hrun, hkind⟩
      · exact ⟨hspells, fun h => absurd hdelimiter (by simp [h])⟩
      · exact ⟨by rw [hkind]; exact spells_ofRun text, fun _ => hrun⟩
    exact ⟨before, text, after, hcs, hne, hspells.1, hspells.2, by rw [ht]; rfl, by rw [ht],
      by rw [ht]; rfl, by rw [ht]; rfl, hpast⟩
  · obtain ⟨before, c, after, hcs, hc, hle⟩ := hlaid.exists_blank hts ht hu
    exact ⟨before, c, after, hcs, hc, hle⟩
  · exact hlaid.blank_or_covered hcs

/-- Columns count characters, offsets and lengths count bytes. -/
example : (tokenize "é\nλ(-7").map (fun t => (t.line, t.column, t.offset, t.length)) =
    [(1, 1, 0, 2), (2, 1, 3, 2), (2, 2, 5, 1), (2, 3, 6, 2)] := by
  rfl

end Token

end Formulary
