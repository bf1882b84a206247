import Formulary.Proofs.Token.Layout
import Formulary.Proofs.Token.Places

/-!
# Symbols standing alone

Whether a name is a symbol is told from its characters, without cutting it into tokens first. No
symbol character is a blank or a delimiter, so a symbol is one token and stays as it is when blanks
are taken off. Conversely, a text of one token is that token with blanks on its two sides
(`LaidOut.exists_around`).

* `isSymbol_iff_alone`: the test of a name agrees with what its tokens are; a text has a symbol as
  its only token exactly if the text without the blanks around it is that symbol.
-/

namespace Formulary.Token

open Text (isBlank trim)

variable {before cs : List Char} {t : Token × Place} {name : String}

/-! ## Texts of one token -/

/-- Where there is no token, there are blanks only. -/
theorem LaidOut.all_isBlank (h : LaidOut before cs []) : cs.all isBlank := by
  generalize hts : ([] : List (Token × Place)) = ts at h
  induction h with
  | nil => rfl
  | blank hc h ih => rw [List.all_cons, hc, ih hts]; rfl
  | token => cases hts

/-- A text of one token has blanks on the two sides of it. -/
theorem LaidOut.exists_around (h : LaidOut before cs [t]) :
    ∃ gap text after, gap.all isBlank ∧ after.all isBlank ∧ cs = gap ++ (text ++ after) ∧
      Kind.ofPiece? text = some t.1.kind := by
  generalize hts : [t] = ts at h
  induction h with
  | nil => cases hts
  | @blank before rest c ts hc h ih =>
    obtain ⟨gap, text, after, hgap, hafter, rfl, hkind⟩ := ih hts
    exact ⟨c :: gap, text, after, by rw [List.all_cons, hc, hgap]; rfl, hafter, rfl, hkind⟩
  | @token before text rest kind ts hne hkind hapart h ih =>
    obtain ⟨rfl, rfl⟩ := List.cons.inj hts
    exact ⟨[], text, rest, rfl, h.all_isBlank, rfl, hkind⟩

/-! ## Symbols -/

/-- What is read as a symbol is its name. -/
theorem eq_toList_of_ofPiece?_symbol {text : List Char}
    (h : Kind.ofPiece? text = some (.symbol name)) : text = name.toList := by
  rcases ofPiece?_cases h with ⟨-, -, -, hdelimiter, -⟩ | ⟨-, hrun⟩
  · cases hdelimiter
  · rw [(eq_of_ofRun_symbol hrun.symm).1, String.toList_ofList]

/-- There are no blanks in a symbol. -/
theorem isBlank_of_isSymbol (h : isSymbol name) : ∀ c ∈ name.toList, isBlank c = false := by
  intro c hc
  have hsymbol := (eq_of_ofRun_symbol (isSymbol_iff.1 h).2).2 c hc
  rw [Bool.eq_false_iff]
  intro hblank
  exact Bool.false_ne_true
    ((isRunChar_of_isBlank hblank).symm.trans (isRunChar_of_isSymbolChar hsymbol))

/-- A symbol with blanks on its two sides is what is left without them. -/
theorem trims_of_isSymbol (h : isSymbol name) {gap after : List Char} (hgap : gap.all isBlank)
    (hafter : after.all isBlank) : Text.Trims (gap ++ (name.toList ++ after)) name.toList where
  exists_around := ⟨gap, after, hgap, hafter, rfl⟩
  isBlank_head _ hc := isBlank_of_isSymbol h _ (List.mem_of_mem_head? hc)
  isBlank_last _ hc := isBlank_of_isSymbol h _ (List.mem_of_getLast? hc)

theorem one_token_iff {source : String} {kind : Kind} :
    (∃ token, tokenize source = [token] ∧ token.kind = kind) ↔ kinds source.toList = [kind] := by
  rw [← map_kind_tokenize, List.map_eq_singleton_iff]

/-- The only token of a text is a symbol exactly if the text without the blanks around it is that
    symbol. -/
theorem kinds_eq_symbol_iff {source : String} :
    kinds source.toList = [.symbol name] ↔ isSymbol name ∧ trim source = name := by
  constructor
  · intro h
    have hsymbol : isSymbol name := isSymbol_of_mem_kinds (by rw [h]; exact List.mem_cons_self)
    obtain ⟨token, htoken, hkind⟩ := one_token_iff.2 h
    obtain ⟨t, hscan, rfl⟩ := List.map_eq_singleton_iff.1 htoken
    have hlaid := laidOut_scan source
    rw [hscan] at hlaid
    obtain ⟨gap, text, after, hgap, hafter, hcs, htext⟩ := hlaid.exists_around
    rw [hkind] at htext
    obtain rfl := eq_toList_of_ofPiece?_symbol htext
    have htrims := trims_of_isSymbol hsymbol hgap hafter
    rw [← hcs, ← Text.toList_trim_eq_iff] at htrims
    exact ⟨hsymbol, String.toList_inj.1 htrims⟩
  · rintro ⟨hsymbol, htrim⟩
    obtain ⟨gap, after, hgap, hafter, hcs⟩ :=
      (Text.toList_trim_eq_iff.1 (congrArg String.toList htrim)).exists_around
    rw [hcs, kinds_blanks hgap, kinds_symbol hsymbol (startsApart_of_blank hafter),
      kinds_eq_nil_of_blank hafter]

/-- A text is a symbol exactly if it has one token and this is the symbol that is spelled by all of
    the text, whatever characters it consists of. With blanks around it, it still has that one
    token, but is no symbol itself. -/
theorem isSymbol_iff_alone (text : String) :
    (isSymbol text = true ↔ ∃ token, tokenize text = [token] ∧ token.kind = .symbol text) ∧
    ∀ name, (∃ token, tokenize text = [token] ∧ token.kind = .symbol name) ↔
      isSymbol name ∧ trim text = name := by
  refine ⟨?_, fun name => one_token_iff.trans kinds_eq_symbol_iff⟩
  rw [one_token_iff, kinds_eq_symbol_iff, iff_self_and]
  exact fun h => Text.trim_of_no_blank (isBlank_of_isSymbol h)

/-- Of these only the first is a symbol, though the second has no other token. -/
example : isSymbol "f!" ∧ isSymbol " f!" = false ∧ isSymbol "f(" = false ∧ isSymbol "" = false ∧
    (tokenize " f!").map kind = [.symbol "f!"] := by
  decide +kernel

end Formulary.Token
