/-!
# Expressions

The tree of a program: symbols, integers, lambdas, conditionals and applications. Trees know no
places in a source, so two programs that differ in spacing alone have the same tree.

* `induction`: what passes from the parts of a tree to the tree holds of every tree;
* `nodeCount`, `formDepth`: the size of a tree, and how deep its forms nest;
* `exceedsDepth`: the depth held against a limit, found with a stack of pending subtrees instead of
  recursion into them.
-/

namespace Formulary

/-- An expression. A *form* is anything but a symbol or an integer: it is written in parentheses. -/
inductive Expr
  | symbol (name : String)
  | integer (value : Int64)
  | lambda (params : List String) (body : Expr)
  | cond (test yes no : Expr)
  | apply (operator : Expr) (args : List Expr)

namespace Expr

/-- The word that opens a lambda. -/
def lambdaKeyword : String := "lam"

/-- The word that opens a conditional. -/
def condKeyword : String := "if"

/-- The words that are no names. -/
def keywords : List String := [lambdaKeyword, condKeyword]

/-- A property that passes from the parts of an expression to the whole holds of all. -/
@[induction_eliminator]
theorem induction {P : Expr → Prop} (symbol : ∀ name, P (symbol name))
    (integer : ∀ value, P (integer value))
    (lambda : ∀ params body, P body → P (lambda params body))
    (cond : ∀ test yes no, P test → P yes → P no → P (cond test yes no))
    (apply : ∀ operator args, P operator → (∀ a ∈ args, P a) → P (apply operator args))
    (e : Expr) : P e :=
  e.rec (motive_2 := fun args => ∀ a ∈ args, P a) symbol integer lambda
    (fun _ _ _ => cond _ _ _) (fun _ _ => apply _ _) (fun _ h => absurd h List.not_mem_nil)
    fun _ _ h hs a ha => by
      rcases List.mem_cons.1 ha with rfl | ha
      · exact h
      · exact hs a ha

mutual

/-- Whether two expressions are the same. -/
def same : Expr → Expr → Bool
  | symbol m, symbol n => m = n
  | integer m, integer n => m = n
  | lambda ps b, lambda qs c => ps = qs && same b c
  | cond t y n, cond u z o => same t u && same y z && same n o
  | apply f as, apply g bs => same f g && sameAll as bs
  | _, _ => false

/-- Whether two lists of expressions are the same. -/
def sameAll : List Expr → List Expr → Bool
  | [], [] => true
  | a :: as, b :: bs => same a b && sameAll as bs
  | _, _ => false

end

theorem same_iff {a b : Expr} : same a b = true ↔ a = b := by
  induction a generalizing b with
  | symbol | integer => cases b <;> simp [same]
  | lambda _ _ ih => cases b <;> simp [same, ih]
  | cond _ _ _ ht hy hn => cases b <;> simp [same, ht, hy, hn, and_assoc]
  | apply f as hf has =>
    have all : ∀ bs, sameAll as bs = true ↔ as = bs := by
      intro bs
      induction as generalizing bs with
      | nil => cases bs <;> simp [sameAll]
      | cons a as ih =>
        cases bs with
        | nil => simp [sameAll]
        | cons b bs =>
          simp [sameAll, has a List.mem_cons_self,
            ih fun x hx => has x (List.mem_cons_of_mem _ hx)]
    cases b <;> simp [same, hf, all]

instance : DecidableEq Expr := fun _ _ => decidable_of_iff _ same_iff

mutual

/-- The number of nodes of a tree; parameters are no nodes. -/
def nodeCount : Expr → Nat
  | symbol _ | integer _ => 1
  | lambda _ body => 1 + body.nodeCount
  | cond test yes no => 1 + test.nodeCount + yes.nodeCount + no.nodeCount
  | apply operator args => 1 + operator.nodeCount + nodeCounts args

/-- The number of nodes of all trees of a list. -/
def nodeCounts : List Expr → Nat
  | [] => 0
  | a :: as => a.nodeCount + nodeCounts as

end

mutual

/-- How deep the forms of an expression nest. -/
def formDepth : Expr → Nat
  | symbol _ | integer _ => 0
  | lambda _ body => 1 + body.formDepth
  | cond test yes no => 1 + max (max test.formDepth yes.formDepth) no.formDepth
  | apply operator args => 1 + max operator.formDepth (formDepths args)

/-- The greatest form depth in a list of expressions. -/
def formDepths : List Expr → Nat
  | [] => 0
  | a :: as => max a.formDepth (formDepths as)

end

/-- The expressions directly inside a form; an atom is no form and has none. -/
def parts? : Expr → Option (List Expr)
  | symbol _ | integer _ => none
  | lambda _ body => some [body]
  | cond test yes no => some [test, yes, no]
  | apply operator args => some (operator :: args)

theorem nodeCounts_append (as bs : List Expr) :
    nodeCounts (as ++ bs) = nodeCounts as + nodeCounts bs := by
  induction as with
  | nil => simp [nodeCounts]
  | cons a as ih => simp [nodeCounts, ih, Nat.add_assoc]

theorem nodeCounts_reverse (as : List Expr) : nodeCounts as.reverse = nodeCounts as := by
  induction as with
  | nil => rfl
  | cons a as ih => simp [nodeCounts, nodeCounts_append, ih, Nat.add_comm]

/-- An atom is a single node. -/
theorem nodeCount_of_parts?_eq_none {e : Expr} (h : e.parts? = none) : e.nodeCount = 1 := by
  cases e with
  | symbol | integer => rfl
  | lambda | cond | apply => cases h

/-- A form has one node more than its parts. -/
theorem nodeCount_of_parts?_eq_some {e : Expr} {parts : List Expr} (h : e.parts? = some parts) :
    e.nodeCount = 1 + nodeCounts parts := by
  cases e <;> simp only [parts?, reduceCtorEq, Option.some.injEq] at h <;> subst h <;>
    simp [nodeCount, nodeCounts] <;> omega

/-! ## Depth held against a limit -/

/-- The number of nodes of the pending expressions, each of which is given with the number of forms
    around it. -/
def pendingCount (pending : List (Expr × Nat)) : Nat :=
  nodeCounts (pending.map Prod.fst)

/-- The stack of pending expressions, its top in front, after the parts of a form have been put on
    it from the first to the last. The form itself stands inside `depth` forms. -/
def push (parts : List Expr) (depth : Nat) (pending : List (Expr × Nat)) : List (Expr × Nat) :=
  parts.reverse.map (·, depth + 1) ++ pending

/-- Taking an atom off the stack leaves one node less. -/
theorem pendingCount_of_atom {e : Expr} (h : e.parts? = none) (depth : Nat)
    (pending : List (Expr × Nat)) :
    pendingCount ((e, depth) :: pending) = pendingCount pending + 1 := by
  rw [pendingCount, List.map_cons, nodeCounts, nodeCount_of_parts?_eq_none h, Nat.add_comm]
  rfl

/-- Putting the parts of a form in its place leaves one node less. -/
theorem pendingCount_of_form {e : Expr} {parts : List Expr} (h : e.parts? = some parts)
    (depth : Nat) (pending : List (Expr × Nat)) :
    pendingCount ((e, depth) :: pending) = pendingCount (push parts depth pending) + 1 := by
  simp only [pendingCount, push, List.map_append, List.map_map, Function.comp_def, List.map_id',
    List.map_cons, nodeCounts, nodeCounts_append, nodeCounts_reverse, nodeCount_of_parts?_eq_some h]
  omega

/-- Whether one of the pending expressions nests deeper than `limit`, counted from where it stands.
    The top of the stack is looked at first, and the search ends at the first form too many. -/
def anyExceeds (limit : Nat) : List (Expr × Nat) → Bool
  | [] => false
  | (e, depth) :: pending =>
    match _ : e.parts? with
    | none => anyExceeds limit pending
    | some parts =>
      if limit < depth + 1 then true
      else anyExceeds limit (push parts depth pending)
termination_by pending => pendingCount pending
decreasing_by
  · rw [pendingCount_of_atom ‹_›]
    exact Nat.lt_succ_self _
  · rw [pendingCount_of_form ‹_›]
    exact Nat.lt_succ_self _

/-- Whether the forms of an expression nest deeper than `limit`. -/
def exceedsDepth (e : Expr) (limit : Nat) : Bool :=
  anyExceeds limit [(e, 0)]

end Expr

end Formulary
