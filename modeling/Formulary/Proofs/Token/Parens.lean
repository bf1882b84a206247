import Formulary.Token
import Mathlib.Data.List.Basic

/-!
# Open and closed parentheses

Which parentheses of a sequence of tokens are open can be told without reading forms: an opening one
goes on a stack, and a closing one takes the last off it (`openParens`). Tokens are *balanced* if
every parenthesis among them has its match there. They leave the stack as it is
(`Balanced.foldl_openAfter`), so none of them closes a parenthesis that was opened in front of them
(`Balanced.leavesOpen`).
-/

namespace Formulary.Token

/-- The opening parentheses that are open after one more token, the last of them first. A closing
    parenthesis that closes nothing is passed over. -/
def openAfter (opens : List Token) (t : Token) : List Token :=
  match t.kind with
  | .openParen => t :: opens
  | .closeParen => opens.tail
  | _ => opens

/-- The opening parentheses among the tokens that none of the later ones closes, the last of them
    first. -/
def openParens (ts : List Token) : List Token :=
  ts.foldl openAfter []

theorem openAfter_of_openParen {t : Token} (ht : t.kind = .openParen) (opens : List Token) :
    openAfter opens t = t :: opens := by
  simp [openAfter, ht]

theorem openAfter_of_closeParen {t : Token} (ht : t.kind = .closeParen) (opens : List Token) :
    openAfter opens t = opens.tail := by
  simp [openAfter, ht]

/-- Only parentheses open or close something. -/
theorem openAfter_of_other {t : Token} (h₁ : t.kind ≠ .openParen) (h₂ : t.kind ≠ .closeParen)
    (opens : List Token) : openAfter opens t = opens := by
  unfold openAfter
  split
  · exact absurd (by assumption) h₁
  · exact absurd (by assumption) h₂
  · rfl

theorem openParens_append (ts us : List Token) :
    openParens (ts ++ us) = us.foldl openAfter (openParens ts) :=
  List.foldl_append

/-! ## Balance -/

/-- Tokens of these kinds have a match for each parenthesis among them. -/
inductive Balanced : List Kind → Prop
  | nil : Balanced []
  | single {kind : Kind} (h₁ : kind ≠ .openParen) (h₂ : kind ≠ .closeParen) : Balanced [kind]
  | append {ks ls : List Kind} (hk : Balanced ks) (hl : Balanced ls) : Balanced (ks ++ ls)
  | group {ks : List Kind} (hk : Balanced ks) : Balanced (.openParen :: (ks ++ [.closeParen]))

/-- The tokens close no parenthesis that was opened right before them: none of them is a closing
    parenthesis with balanced tokens in front of it. -/
def LeavesOpen (ks : List Kind) : Prop :=
  ∀ inside rest, ks = inside ++ .closeParen :: rest → ¬Balanced inside

namespace Balanced

variable {ks : List Kind}

theorem cons {kind : Kind} (h₁ : kind ≠ .openParen) (h₂ : kind ≠ .closeParen)
    (h : Balanced ks) : Balanced (kind :: ks) :=
  append (single h₁ h₂) h

/-- Tokens among which there are no parentheses are balanced. -/
theorem of_no_parens (h : ∀ kind ∈ ks, kind ≠ .openParen ∧ kind ≠ .closeParen) : Balanced ks := by
  induction ks with
  | nil => exact .nil
  | cons kind ks ih =>
    obtain ⟨⟨h₁, h₂⟩, hks⟩ := List.forall_mem_cons.1 h
    exact .cons h₁ h₂ (ih hks)

/-- After balanced tokens the same parentheses are open as before. -/
theorem foldl_openAfter (h : Balanced ks) {ts : List Token} (hts : ts.map kind = ks)
    (opens : List Token) : ts.foldl openAfter opens = opens := by
  induction h generalizing ts opens with
  | nil =>
    obtain rfl := List.map_eq_nil_iff.1 hts
    rfl
  | single h₁ h₂ =>
    obtain ⟨t, rfl, rfl⟩ := List.map_eq_singleton_iff.1 hts
    exact openAfter_of_other h₁ h₂ opens
  | append _ _ ihk ihl =>
    obtain ⟨us, vs, rfl, hu, hv⟩ := List.map_eq_append_iff.1 hts
    rw [List.foldl_append, ihk hu, ihl hv]
  | group _ ih =>
    obtain ⟨opening, rest, rfl, ho, hrest⟩ := List.map_eq_cons_iff.1 hts
    obtain ⟨inside, last, rfl, hi, hl⟩ := List.map_eq_append_iff.1 hrest
    obtain ⟨closing, rfl, hc⟩ := List.map_eq_singleton_iff.1 hl
    -- what is opened first is on top again when its match comes
    rw [List.foldl_cons, openAfter_of_openParen ho, List.foldl_append, ih hi, List.foldl_cons,
      openAfter_of_closeParen hc]
    rfl

/-- Balanced tokens have the matches of their closing parentheses among them. -/
theorem leavesOpen (h : Balanced ks) : LeavesOpen ks := by
  rintro inside rest rfl hinside
  -- a token of each kind, wherever it stands
  let token (n : Nat) (kind : Kind) : Token := ⟨kind, n, 1, 0, 1⟩
  have kinds (ls : List Kind) : (ls.map (token 1)).map kind = ls := by
    simp [token, Function.comp_def]
  have hfold (t : Token) : (rest.map (token 1)).foldl openAfter [] = [t] := by
    have hall := h.foldl_openAfter (kinds _) [t]
    rw [List.map_append, List.map_cons, List.foldl_append, hinside.foldl_openAfter (kinds inside),
      List.foldl_cons, openAfter_of_closeParen rfl] at hall
    exact hall
  -- the closing parenthesis would take off whatever had been opened before, and it cannot be back
  have heq : token 1 .openParen = token 2 .openParen :=
    List.singleton_inj.1 ((hfold (token 1 .openParen)).symm.trans (hfold (token 2 .openParen)))
  simp [token] at heq

end Balanced

/-- A parenthesis that balanced tokens follow is the innermost one that is open. -/
theorem openParens_of_balanced {before rest : List Token} {t : Token} (ht : t.kind = .openParen)
    (h : Balanced (rest.map kind)) : openParens (before ++ t :: rest) = t :: openParens before := by
  rw [openParens_append, List.foldl_cons, openAfter_of_openParen ht, h.foldl_openAfter rfl]

end Formulary.Token
