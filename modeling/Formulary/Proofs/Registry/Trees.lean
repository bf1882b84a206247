import Formulary.Proofs.Expr.Depth
import Formulary.Proofs.Registry.Atomicity
import Formulary.Proofs.Registry.Stages

/-!
# Programs given as trees

A program can be stored by its text or as a tree. A tree that nests too deep, or is not valid, is
rejected before it is written out. The text of any other tree reads as the tree, however the tree
came about, so storing it is storing its text (`stored_as_text`).
-/

namespace Formulary.Registry

open Store (outcome outcome_bind_of_error Receives)

variable {registry : Registry} {tree : Expr}

/-! ## Trees that are rejected -/

/-- What becomes of a tree that is rejected for a violation: nothing but an event is left. -/
def invalidated (violation : Expr.Violation) (s : Store) :
    Option (Except Rejection Digest) × Store :=
  (some (.error (.invalid violation)),
    { s with log := s.log ++ [.rejected .parsed (.invalid violation)] })

theorem outcome_createTree_of_tooDeep (h : registry.depthLimit < tree.formDepth)
    (operands : List Digest) (s : Store) :
    outcome (registry.createTree tree operands) s =
      invalidated (.tooDeep registry.depthLimit) s := by
  rw [createTree, Expr.exceedsDepth_iff.2 h]
  exact outcome_bind_of_error rfl _

theorem exceedsDepth_eq_false (h : tree.formDepth ≤ registry.depthLimit) :
    tree.exceedsDepth registry.depthLimit = false := by
  rw [Bool.eq_false_iff, Ne, Expr.exceedsDepth_iff]
  exact Nat.not_lt.2 h

theorem outcome_createTree_of_invalid {violation : Expr.Violation}
    (hdepth : tree.formDepth ≤ registry.depthLimit) (h : tree.validate = .error violation)
    (operands : List Digest) (s : Store) :
    outcome (registry.createTree tree operands) s = invalidated violation s := by
  rw [createTree, exceedsDepth_eq_false hdepth, h]
  exact outcome_bind_of_error rfl _

/-! ## Trees that are stored -/

/-- The text of a valid tree that does not nest too deep is accepted, and read as the tree. -/
theorem verdict_render (hdepth : tree.formDepth ≤ registry.depthLimit)
    (hvalid : tree.validate = .ok ()) : registry.verdict tree.render = .ok tree := by
  -- the limit of a registry is never above the greatest one
  have hlimit : tree.formDepth ≤ min registry.depthLimit Expr.greatestMaxDepth :=
    Nat.le_min.2 ⟨hdepth, hdepth.trans (Nat.min_le_right _ _)⟩
  have hparse := Expr.parse_render_of_validNames (Expr.validNames_of_validate hvalid)
    (Expr.plainOperators_of_validate hvalid) hlimit
  exact verdict_eq_ok_iff.2 ⟨hparse, hvalid⟩

/-- A program that is accepted is not rejected for its text later on. -/
theorem outcome_create_ne_unparsable {source : String} (h : registry.verdict source = .ok tree)
    (operands : List Digest) (s : Store) (error : Expr.Parse.Error) :
    (outcome (registry.create source operands) s).1 ≠ some (.error (.unparsable error)) := by
  obtain ⟨log, hrest⟩ := outcome_create_of_verdict h operands s
  have hlogs := logs_storeEntry ⟨source, tree, operands⟩ { s with log }
  rw [hrest]
  intro herror
  have hrejected : outcome (storeEntry ⟨source, tree, operands⟩) { s with log } =
      (some (.error (.unparsable error)), _) := Prod.ext herror rfl
  -- whatever fails after the check has reached a later stage
  rw [hrejected] at hlogs
  cases hlogs.1

/-- What is stored of a program that is accepted is its text and its tree, under their digest. -/
theorem receives_of_create {source : String} (h : registry.verdict source = .ok tree)
    {operands : List Digest} {s : Store} {d : Digest}
    (hd : (outcome (registry.create source operands) s).1 = some (.ok d)) :
    d = Entry.digest ⟨source, tree, operands⟩ ∧
      Receives s d (Entry.encode ⟨source, tree, operands⟩)
        (outcome (registry.create source operands) s).2 := by
  obtain ⟨t, ⟨rejection, hcreate, -⟩ | ⟨hreceives, hcreate | hcreate⟩⟩ :=
    storesOrRejects_create h operands s
  · simp [hcreate] at hd
  · obtain rfl : Entry.digest _ = d := by simpa [hcreate] using hd
    exact ⟨rfl, hcreate ▸ hreceives⟩
  · simp [hcreate] at hd

/-- A tree that is to be stored is rejected if it nests too deep, and otherwise for its first
    violation if it has one. Any other tree is treated exactly as its text is, whatever the store
    holds: the text is accepted and reads as the tree, and what is stored, if anything is, is the
    text with this tree. So no tree is ever rejected for a text that cannot be read. -/
theorem stored_as_text (registry : Registry) (tree : Expr) (operands : List Digest) (s : Store) :
    (if registry.depthLimit < tree.formDepth then
        outcome (registry.createTree tree operands) s =
          invalidated (.tooDeep registry.depthLimit) s
      else match tree.validate with
        | .error violation =>
          outcome (registry.createTree tree operands) s = invalidated violation s
        | .ok () =>
          outcome (registry.createTree tree operands) s =
              outcome (registry.create tree.render operands) s ∧
            registry.verdict tree.render = .ok tree ∧
            ∀ d, (outcome (registry.createTree tree operands) s).1 = some (.ok d) →
              d = Entry.digest ⟨tree.render, tree, operands⟩ ∧
                Receives s d (Entry.encode ⟨tree.render, tree, operands⟩)
                  (outcome (registry.createTree tree operands) s).2) ∧
    ∀ error, (outcome (registry.createTree tree operands) s).1 ≠
      some (.error (.unparsable error)) := by
  split_ifs with hdepth
  · have h := outcome_createTree_of_tooDeep hdepth operands s
    exact ⟨h, fun error => by simp [h, invalidated]⟩
  rw [Nat.not_lt] at hdepth
  rcases hvalid : tree.validate with violation | _
  · have h := outcome_createTree_of_invalid hdepth hvalid operands s
    exact ⟨h, fun error => by simp [h, invalidated]⟩
  · have hverdict := verdict_render hdepth hvalid
    have h := outcome_createTree_of_valid (exceedsDepth_eq_false hdepth) hvalid operands s
    rw [h]
    exact ⟨⟨rfl, hverdict, fun d => receives_of_create hverdict⟩,
      outcome_create_ne_unparsable hverdict operands s⟩

end Formulary.Registry
