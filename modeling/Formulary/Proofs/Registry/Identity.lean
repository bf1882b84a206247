import Formulary.Proofs.Registry.Runs

/-!
# What a digest stands for

The digest that is given for a stored program is that of its entry: the text as it was submitted,
the tree, and the operands. The tree follows from the text, under whatever rules it is accepted. So
as long as digests do not collide a digest stands for one text and one list of operands.

* `verdict_unique`: registries that accept a source read the same tree from it;
* `eq_digest_iff`: when two programs are given the same digest.
-/

namespace Formulary.Registry

open Store (outcome)

/-- The depth limit decides only whether there is a tree, not which one. -/
theorem verdict_unique {first second : Registry} {source : String} {tree tree' : Expr}
    (h : first.verdict source = .ok tree) (h' : second.verdict source = .ok tree') :
    tree = tree' := by
  obtain ⟨hparse, -⟩ := verdict_eq_ok_iff.1 h
  obtain ⟨hparse', -⟩ := verdict_eq_ok_iff.1 h'
  obtain ⟨hkinds, hplain, -⟩ := Expr.parse_eq_ok_iff.1 hparse
  obtain ⟨hkinds', hplain', -⟩ := Expr.parse_eq_ok_iff.1 hparse'
  exact Expr.Parse.eq_of_flatten_eq hplain hplain' (hkinds.symm.trans hkinds')

/-- A program that was created was accepted, and the digest given for it is that of the entry that
    the call stores. -/
theorem exists_stores_of_create {registry : Registry} {source : String} {operands : List Digest}
    {s : Store} {d : Digest} (h : (outcome (registry.create source operands) s).1 = some (.ok d)) :
    ∃ tree, registry.verdict source = .ok tree ∧
      Call.Stores s ⟨registry, .create source operands⟩ ⟨source, tree, operands⟩ ∧
      d = Entry.digest ⟨source, tree, operands⟩ := by
  rcases hverdict : registry.verdict source with rejection | tree
  · obtain ⟨log, hrejected⟩ := outcome_create_of_error hverdict operands s
    rw [hrejected] at h
    cases h
  · have hserved (rejection : Rejection) :
        (outcome (registry.create source operands) s).1 ≠ some (.error rejection) := by
      rw [h]
      nofun
    exact ⟨tree, rfl, .create hverdict hserved,
      eq_digest_of_ok (storesOrRejects_create hverdict operands s) h⟩

/-- No two entries are encoded alike, whatever their texts, trees and operands. So programs that are
    created from their sources, by anyone and at any time, are given the same digest exactly if the
    sources are the same text and the operands the same list, unless the digests of their encodings
    collide. That the sources have the same tree makes no difference. -/
theorem eq_digest_iff :
    Function.Injective Entry.encode ∧
    ∀ (first second : Registry) (s t : Store) (source source' : String)
      (operands operands' : List Digest) (d d' : Digest),
      (outcome (first.create source operands) s).1 = some (.ok d) →
      (outcome (second.create source' operands') t).1 = some (.ok d') →
      (∀ e f, Call.Stores s ⟨first, .create source operands⟩ e →
        Call.Stores t ⟨second, .create source' operands'⟩ f →
        e.digest = f.digest → e.encode = f.encode) →
      (d = d' ↔ source = source' ∧ operands = operands') := by
  refine ⟨fun e f => Entry.eq_of_encode_eq, ?_⟩
  intro first second s t source source' operands operands' d d' h h' hfree
  obtain ⟨tree, hverdict, hstores, rfl⟩ := exists_stores_of_create h
  obtain ⟨tree', hverdict', hstores', rfl⟩ := exists_stores_of_create h'
  constructor
  · intro hdigest
    have hentry := Entry.eq_of_encode_eq (hfree _ _ hstores hstores' hdigest)
    obtain ⟨hsource, -, hoperands⟩ := Entry.mk.inj hentry
    exact ⟨hsource, hoperands⟩
  · rintro ⟨rfl, rfl⟩
    obtain rfl := verdict_unique hverdict hverdict'
    rfl

/-- A second blank makes another entry, though the tree is the same. -/
theorem digest_ne_of_respaced :
    verdict ⟨3, ⟨0, 0⟩⟩ "(f x)" = verdict ⟨3, ⟨0, 0⟩⟩ "(f  x)" ∧
    ∃ d d',
      (outcome (create ⟨3, ⟨0, 0⟩⟩ "(f x)" []) (Store.inMemory none Disk.empty 0)).1 =
        some (.ok d) ∧
      (outcome (create ⟨3, ⟨0, 0⟩⟩ "(f  x)" []) (Store.inMemory none Disk.empty 0)).1 =
        some (.ok d') ∧
      d ≠ d' := by
  let tree : Expr := .apply (.symbol "f") [.symbol "x"]
  have hdigest : Entry.digest ⟨"(f x)", tree, []⟩ ≠ Entry.digest ⟨"(f  x)", tree, []⟩ := by
    decide +kernel
  have hverdict : verdict ⟨3, ⟨0, 0⟩⟩ "(f x)" = .ok tree := by decide +kernel
  have hverdict' : verdict ⟨3, ⟨0, 0⟩⟩ "(f  x)" = .ok tree := by decide +kernel
  have hcreate : (outcome (create ⟨3, ⟨0, 0⟩⟩ "(f x)" []) (Store.inMemory none Disk.empty 0)).1 =
      some (.ok (Entry.digest ⟨"(f x)", tree, []⟩)) := by decide +kernel
  have hcreate' : (outcome (create ⟨3, ⟨0, 0⟩⟩ "(f  x)" []) (Store.inMemory none Disk.empty 0)).1 =
      some (.ok (Entry.digest ⟨"(f  x)", tree, []⟩)) := by decide +kernel
  have hiff := eq_digest_iff.2 ⟨3, ⟨0, 0⟩⟩ ⟨3, ⟨0, 0⟩⟩ (Store.inMemory none Disk.empty 0)
    (Store.inMemory none Disk.empty 0) "(f x)" "(f  x)" [] [] (Entry.digest ⟨"(f x)", tree, []⟩)
    (Entry.digest ⟨"(f  x)", tree, []⟩) hcreate hcreate' ?_
  · refine ⟨hverdict.trans hverdict'.symm, _, _, hcreate, hcreate', fun hd => ?_⟩
    exact absurd (hiff.1 hd).1 (by decide)
  · -- each call stores one entry only, and their digests do not collide
    intro e f he hf hsame
    cases he with
    | create he =>
      cases hf with
      | create hf =>
        rw [hverdict] at he
        rw [hverdict'] at hf
        cases he
        cases hf
        exact absurd hsame hdigest

end Formulary.Registry
