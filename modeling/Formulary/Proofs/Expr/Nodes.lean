import Formulary.Expr.Render
import Mathlib.Data.List.Basic

/-!
# What holds everywhere in a tree

Many conditions on a tree are conditions on each of its nodes: that a name is a symbol, that an
operator is no keyword. Such a condition holds of a form if it holds of the form itself and
everywhere in its parts (`everywhere_lambda`, `everywhere_cond`, `everywhere_apply`).

* `nodes`: all expressions of a tree, in the order in which they are written;
* `Everywhere`: a property of all of them;
* `PlainOperators`: no application has a bare keyword for its operator. Written out it would be read
  as another form.
-/

namespace Formulary.Expr

mutual

/-- The expressions of a tree, each before those inside it. -/
def nodes : Expr → List Expr
  | symbol name => [symbol name]
  | integer value => [integer value]
  | lambda params body => lambda params body :: body.nodes
  | cond test yes no => cond test yes no :: (test.nodes ++ yes.nodes ++ no.nodes)
  | apply operator args => apply operator args :: (operator.nodes ++ allNodes args)

/-- The expressions of trees in a row. -/
def allNodes : List Expr → List Expr
  | [] => []
  | a :: as => a.nodes ++ allNodes as

end

/-- Each expression of a tree has the property. -/
def Everywhere (p : Expr → Prop) (e : Expr) : Prop :=
  ∀ x ∈ e.nodes, p x

variable {p : Expr → Prop}

/-- The nodes of several trees are the nodes of each. -/
theorem mem_allNodes {x : Expr} {as : List Expr} : x ∈ allNodes as ↔ ∃ a ∈ as, x ∈ a.nodes := by
  induction as with
  | nil => simp [allNodes]
  | cons a as ih => simp [allNodes, ih]

@[simp] theorem everywhere_symbol {name : String} :
    (symbol name).Everywhere p ↔ p (symbol name) := by
  simp [Everywhere, nodes]

@[simp] theorem everywhere_integer {value : Int64} :
    (integer value).Everywhere p ↔ p (integer value) := by
  simp [Everywhere, nodes]

@[simp] theorem everywhere_lambda {params : List String} {body : Expr} :
    (lambda params body).Everywhere p ↔ p (lambda params body) ∧ body.Everywhere p := by
  simp [Everywhere, nodes]

@[simp] theorem everywhere_cond {test yes no : Expr} :
    (cond test yes no).Everywhere p ↔
      p (cond test yes no) ∧ test.Everywhere p ∧ yes.Everywhere p ∧ no.Everywhere p := by
  simp only [Everywhere, nodes, List.forall_mem_cons, List.forall_mem_append, and_assoc]

/-- What holds everywhere in an application holds of it and everywhere in what it is made of. -/
@[simp] theorem everywhere_apply {operator : Expr} {args : List Expr} :
    (apply operator args).Everywhere p ↔
      p (apply operator args) ∧ operator.Everywhere p ∧ ∀ a ∈ args, a.Everywhere p := by
  simp only [Everywhere, nodes, List.forall_mem_cons, List.forall_mem_append, mem_allNodes]
  exact and_congr_right fun _ => and_congr_right fun _ =>
    ⟨fun h a ha x hx => h x ⟨a, ha, hx⟩, fun h x ⟨a, ha, hx⟩ => h a ha x hx⟩

/-- A bare keyword. -/
def IsKeyword : Expr → Prop
  | symbol name => name ∈ keywords
  | _ => False

/-- An application has an operator that is no bare keyword. -/
def HasPlainOperator : Expr → Prop
  | apply operator _ => ¬operator.IsKeyword
  | _ => True

/-- No application in the tree has a bare keyword as its operator. -/
def PlainOperators (e : Expr) : Prop :=
  e.Everywhere HasPlainOperator

/-! ## Lists of trees -/

/-- The tokens of several expressions are those of one after the other. -/
theorem flattenAll_eq_flatMap (as : List Expr) : flattenAll as = as.flatMap flatten := by
  induction as with
  | nil => rfl
  | cons a as ih => simp [flattenAll, ih]

theorem flattenAll_append (as bs : List Expr) :
    flattenAll (as ++ bs) = flattenAll as ++ flattenAll bs := by
  simp [flattenAll_eq_flatMap]

/-- Trees in a row are as deep as the deepest of them. -/
theorem formDepths_le_iff {as : List Expr} {n : Nat} :
    formDepths as ≤ n ↔ ∀ a ∈ as, a.formDepth ≤ n := by
  induction as with
  | nil => simp [formDepths]
  | cons a as ih => rw [formDepths, Nat.max_le, ih, List.forall_mem_cons]

end Formulary.Expr
