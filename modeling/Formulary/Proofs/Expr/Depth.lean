import Formulary.Proofs.Expr.Nodes

/-!
# Depth held against a limit

A tree that nests too deep is found without recursion into it, by a stack of expressions that are
still to be looked at, each with the number of forms around it. How such a search goes is told round
by round (`Searches`): an atom is dropped, and a form gives way to its parts, unless it is one too
many. Every round takes one node off the stack, so the search ends. As long as nothing pending has
more forms around it than allowed, a form too many is found exactly if one of the pending
expressions, counted from where it stands, nests deeper than the limit (`Searches.found_iff`).

* `exists_searches`: `anyExceeds` gives the answer of such a search;
* `searched_to_the_depth`: the depth of a tree decides what is found, in no more rounds than the
  tree has nodes.
-/

namespace Formulary.Expr

variable {e : Expr} {limit depth rounds : Nat} {parts : List Expr} {pending : List (Expr × Nat)}
  {found : Bool}

theorem formDepth_of_parts?_eq_none (h : e.parts? = none) : e.formDepth = 0 := by
  cases e with
  | symbol | integer => rfl
  | lambda | cond | apply => cases h

/-- A form nests one deeper than the deepest of its parts. -/
theorem formDepth_of_parts?_eq_some (h : e.parts? = some parts) :
    e.formDepth = 1 + formDepths parts := by
  cases e with
  | symbol | integer => cases h
  | lambda | apply =>
    obtain rfl := Option.some.inj h
    simp [formDepth, formDepths]
  | cond =>
    obtain rfl := Option.some.inj h
    simp [formDepth, formDepths, Nat.max_assoc]

theorem lt_formDepths_iff {as : List Expr} {n : Nat} :
    n < formDepths as ↔ ∃ a ∈ as, n < a.formDepth := by
  rw [← Nat.not_le, formDepths_le_iff]
  simp

/-- Where it stands, a form with room inside it nests too deep if one of its parts does one level
    further in. -/
theorem lt_add_formDepth_iff (h : e.parts? = some parts) (hroom : depth + 1 ≤ limit) :
    limit < depth + e.formDepth ↔ ∃ a ∈ parts, limit < depth + 1 + a.formDepth := by
  have hdepth := formDepth_of_parts?_eq_some h
  have hdeepest := @lt_formDepths_iff parts (limit - (depth + 1))
  grind

/-! ## Searching -/

/-- A search through what is pending ends after so many rounds, and has found a form too many or
    not. -/
inductive Searches (limit : Nat) : List (Expr × Nat) → Nat → Bool → Prop
  | nothing : Searches limit [] 0 false
  | atom {e : Expr} {depth rounds : Nat} {pending : List (Expr × Nat)} {found : Bool}
      (hatom : e.parts? = none) (h : Searches limit pending rounds found) :
      Searches limit ((e, depth) :: pending) (rounds + 1) found
  | tooDeep {e : Expr} {depth : Nat} {pending : List (Expr × Nat)} {parts : List Expr}
      (hform : e.parts? = some parts) (hlimit : limit < depth + 1) :
      Searches limit ((e, depth) :: pending) 1 true
  | form {e : Expr} {depth rounds : Nat} {pending : List (Expr × Nat)} {parts : List Expr}
      {found : Bool} (hform : e.parts? = some parts) (hroom : depth + 1 ≤ limit)
      (h : Searches limit (push parts depth pending) rounds found) :
      Searches limit ((e, depth) :: pending) (rounds + 1) found

/-- Whatever is pending, a search comes to its end, with the answer of `anyExceeds`. -/
theorem exists_searches (limit : Nat) (pending : List (Expr × Nat)) :
    ∃ rounds, Searches limit pending rounds (anyExceeds limit pending) := by
  fun_induction anyExceeds limit pending with
  | case1 => exact ⟨0, .nothing⟩
  | case2 e depth pending hatom ih =>
    obtain ⟨rounds, h⟩ := ih
    exact ⟨rounds + 1, .atom hatom h⟩
  | case3 e depth pending parts hform hlimit => exact ⟨1, .tooDeep hform hlimit⟩
  | case4 e depth pending parts hform hlimit ih =>
    obtain ⟨rounds, h⟩ := ih
    exact ⟨rounds + 1, .form hform (Nat.not_lt.1 hlimit) h⟩

/-- No pending expression has more forms around it than allowed. -/
def HasRoom (limit : Nat) (pending : List (Expr × Nat)) : Prop :=
  ∀ p ∈ pending, p.2 ≤ limit

theorem HasRoom.push (h : HasRoom limit pending) (hroom : depth + 1 ≤ limit) (parts : List Expr) :
    HasRoom limit (push parts depth pending) :=
  List.forall_mem_append.2 ⟨List.forall_mem_map.2 fun _ _ => hroom, h⟩

namespace Searches

/-- A search takes no more rounds than there are nodes pending. -/
theorem rounds_le (h : Searches limit pending rounds found) : rounds ≤ pendingCount pending := by
  induction h with
  | nothing => exact Nat.zero_le _
  | atom hatom h ih =>
    rw [pendingCount_of_atom hatom]
    exact Nat.succ_le_succ ih
  | tooDeep hform hlimit =>
    rw [pendingCount_of_form hform]
    exact Nat.le_add_left 1 _
  | form hform hroom h ih =>
    rw [pendingCount_of_form hform]
    exact Nat.succ_le_succ ih

/-- A search that finds nothing has gone through every node. -/
theorem rounds_eq (h : Searches limit pending rounds found) (hnone : found = false) :
    rounds = pendingCount pending := by
  induction h with
  | nothing => rfl
  | atom hatom h ih => rw [pendingCount_of_atom hatom, ih hnone]
  | tooDeep => cases hnone
  | form hform hroom h ih => rw [pendingCount_of_form hform, ih hnone]

/-- A form too many is found exactly if one of the pending expressions nests too deep where it
    stands. -/
theorem found_iff (h : Searches limit pending rounds found) (hroom : HasRoom limit pending) :
    found ↔ ∃ p ∈ pending, limit < p.2 + p.1.formDepth := by
  induction h with
  | nothing => simp
  | atom hatom h ih =>
    -- an atom nests no deeper than the place where it stands
    obtain ⟨hdepth, hpending⟩ := List.forall_mem_cons.1 hroom
    rw [ih hpending, List.exists_mem_cons_iff, formDepth_of_parts?_eq_none hatom]
    simp [Nat.not_lt.2 hdepth]
  | tooDeep hform hlimit =>
    rw [List.exists_mem_cons_iff, formDepth_of_parts?_eq_some hform]
    exact iff_of_true rfl (.inl (by omega))
  | form hform hinside h ih =>
    obtain ⟨-, hpending⟩ := List.forall_mem_cons.1 hroom
    rw [ih (HasRoom.push hpending hinside _), List.exists_mem_cons_iff,
      lt_add_formDepth_iff hform hinside, push]
    simp [or_and_right, exists_or]

end Searches

/-! ## A tree by itself -/

theorem hasRoom_single (limit : Nat) (e : Expr) : HasRoom limit [(e, 0)] :=
  List.forall_mem_singleton.2 (Nat.zero_le limit)

theorem pendingCount_single (e : Expr) : pendingCount [(e, 0)] = e.nodeCount :=
  Nat.add_zero _

theorem Searches.found_single_iff (h : Searches limit [(e, 0)] rounds found) :
    found ↔ limit < e.formDepth := by
  simpa using h.found_iff (hasRoom_single limit e)

theorem exceedsDepth_iff : e.exceedsDepth limit ↔ limit < e.formDepth := by
  obtain ⟨rounds, h⟩ := exists_searches limit [(e, 0)]
  exact h.found_single_iff

/-- A tree nests deeper than the limit exactly if the search with a stack says so. The search comes
    to an end with this answer and with no other, in no more rounds than the tree has nodes; a tree
    that keeps to the limit is gone through as a whole. -/
theorem searched_to_the_depth (e : Expr) (limit : Nat) :
    (e.exceedsDepth limit = true ↔ limit < e.formDepth) ∧
    (∃ rounds, Searches limit [(e, 0)] rounds (e.exceedsDepth limit)) ∧
    ∀ rounds found, Searches limit [(e, 0)] rounds found →
      found = e.exceedsDepth limit ∧ rounds ≤ e.nodeCount ∧
        (e.formDepth ≤ limit → rounds = e.nodeCount) := by
  refine ⟨exceedsDepth_iff, exists_searches limit [(e, 0)], fun rounds found h => ?_⟩
  have hfound := h.found_single_iff
  rw [← pendingCount_single e]
  refine ⟨?_, h.rounds_le, fun hdepth => h.rounds_eq ?_⟩
  · rw [Bool.eq_iff_iff, hfound, exceedsDepth_iff]
  · rw [Bool.eq_false_iff, Ne, hfound]
    exact Nat.not_lt.2 hdepth

/-- The second round finds a form too many: the argument, which is above the operator on the stack.
    With room for it, all four nodes are gone through. -/
theorem searched_to_the_depth_of_argument :
    let e := apply (symbol "f") [lambda ["x"] (symbol "x")]
    (Searches 1 [(e, 0)] 2 true ∧ 1 < e.formDepth ∧ e.exceedsDepth 1 = true ∧ 2 ≤ e.nodeCount) ∧
    Searches 2 [(e, 0)] 4 false ∧ e.formDepth ≤ 2 ∧ e.exceedsDepth 2 = false ∧ e.nodeCount = 4 := by
  intro e
  have hdepth : e.formDepth ≤ 2 := Nat.le_refl 2
  have hfound : Searches 1 [(e, 0)] 2 true :=
    .form rfl (by decide) (.tooDeep rfl (by decide))
  have hnone : Searches 2 [(e, 0)] 4 false :=
    .form rfl (by decide) (.form rfl (by decide) (.atom rfl (.atom rfl .nothing)))
  obtain ⟨hdeep, -, hshort⟩ := searched_to_the_depth e 1
  obtain ⟨-, -, hlong⟩ := searched_to_the_depth e 2
  obtain ⟨htrue, hrounds, -⟩ := hshort 2 true hfound
  obtain ⟨hfalse, -, hall⟩ := hlong 4 false hnone
  exact ⟨⟨hfound, hdeep.1 htrue.symm, htrue.symm, hrounds⟩, hnone, hdepth, hfalse.symm,
    (hall hdepth).symm⟩

end Formulary.Expr
