import Formulary.Expr.Validity
import Formulary.Proofs.Expr.Nodes
import Formulary.Proofs.Outcome

/-!
# What a valid tree is

The check of a tree goes through all names of it in order. That it finds nothing means that each
name is a symbol and no keyword, and that no lambda binds a name twice (`validate_eq_ok_iff`).

* `validNames_of_validate`, `plainOperators_of_validate`: so a valid tree has what it takes to be
  written out.
-/

namespace Formulary.Expr

/-- A symbol that is no keyword. -/
def IsProperName (name : String) : Prop :=
  name ∉ keywords ∧ Token.isSymbol name

/-- The names of a node are proper, and those of parameters distinct. -/
def HasProperNames : Expr → Prop
  | symbol name => IsProperName name
  | lambda params _ => (∀ name ∈ params, IsProperName name) ∧ params.Nodup
  | _ => True

/-- The names of a node are symbols, be they keywords or not. -/
def HasValidNames : Expr → Prop
  | symbol name => Token.isSymbol name
  | lambda params _ => ∀ name ∈ params, Token.isSymbol name
  | _ => True

/-- All names in a tree are symbols, be they keywords or not. -/
def ValidNames (e : Expr) : Prop :=
  e.Everywhere HasValidNames

theorem checkName_eq_ok_iff {name : String} : checkName name = .ok () ↔ IsProperName name := by
  unfold checkName IsProperName
  split_ifs with hk hs
  · simp [hk]
  · simp [hk, hs]
  · simp [hs]

theorem checkParams_eq_ok_iff {seen params : List String} :
    checkParams seen params = .ok () ↔
      (∀ name ∈ params, IsProperName name) ∧ params.Nodup ∧ ∀ name ∈ params, name ∉ seen := by
  induction params generalizing seen with
  | nil => simp [checkParams]
  | cons name rest ih =>
    rw [checkParams, check_bind_eq_ok_iff, checkName_eq_ok_iff, List.forall_mem_cons,
      List.forall_mem_cons, List.nodup_cons]
    split_ifs with hs
    · simp [hs]
    · rw [ih]
      simp only [List.mem_cons, not_or]
      grind

theorem validateAll_eq_ok_iff {es : List Expr} :
    validateAll es = .ok () ↔ ∀ e ∈ es, validate e = .ok () := by
  induction es with
  | nil => simp [validateAll]
  | cons e es ih => rw [validateAll, check_bind_eq_ok_iff, ih, List.forall_mem_cons]

/-- The check finds nothing exactly if each node of the tree is in order. -/
theorem validate_eq_ok_iff {e : Expr} : validate e = .ok () ↔ e.Everywhere HasProperNames := by
  induction e with
  | symbol name => simp [validate, HasProperNames, checkName_eq_ok_iff]
  | integer value => simp [validate, HasProperNames]
  | lambda params body ih =>
    simp [validate, HasProperNames, check_bind_eq_ok_iff, checkParams_eq_ok_iff, ih]
  | cond test yes no iht ihy ihn =>
    simp [validate, HasProperNames, check_bind_eq_ok_iff, iht, ihy, ihn]
  | apply operator args iho iha =>
    simp only [validate, check_bind_eq_ok_iff, validateAll_eq_ok_iff, iho, everywhere_apply,
      HasProperNames, true_and]
    exact and_congr_right fun _ => forall₂_congr iha

/-- All names in a valid tree are symbols. -/
theorem validNames_of_validate {e : Expr} (h : validate e = .ok ()) : e.ValidNames := by
  rw [validate_eq_ok_iff] at h
  intro x hx
  have hproper := h x hx
  cases x with
  | symbol name => exact hproper.2
  | lambda params body => exact fun name hname => (hproper.1 name hname).2
  | integer | cond | apply => trivial

/-- A valid expression is no keyword. -/
theorem not_isKeyword_of_everywhere {e : Expr} (h : e.Everywhere HasProperNames) :
    ¬e.IsKeyword := by
  cases e with
  | symbol name => exact (everywhere_symbol.1 h).1
  | integer | lambda | cond | apply => exact id

/-- No operator in a valid tree is a bare keyword. -/
theorem plainOperators_of_validate {e : Expr} (h : validate e = .ok ()) : e.PlainOperators := by
  rw [validate_eq_ok_iff] at h
  induction e with
  | symbol | integer => simp [PlainOperators, HasPlainOperator]
  | lambda params body ih =>
    exact everywhere_lambda.2 ⟨trivial, ih (everywhere_lambda.1 h).2⟩
  | cond test yes no iht ihy ihn =>
    obtain ⟨-, ht, hy, hn⟩ := everywhere_cond.1 h
    exact everywhere_cond.2 ⟨trivial, iht ht, ihy hy, ihn hn⟩
  | apply operator args iho iha =>
    obtain ⟨-, ho, ha⟩ := everywhere_apply.1 h
    exact everywhere_apply.2
      ⟨not_isKeyword_of_everywhere ho, iho ho, fun a hmem => iha a hmem (ha a hmem)⟩

end Formulary.Expr
