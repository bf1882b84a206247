import Formulary.Proofs.Entry.Encoding
import Formulary.Proofs.Store.Looking
import Formulary.Proofs.Store.Writing
import Formulary.Registry

/-!
# What becomes of requests

Whether a program is accepted depends on its source and the rules alone (`verdict`). A program that
is accepted, and whose operands are there, is put into the store; nothing else that a client can ask
for changes what the store holds.

* `storesOrRejects_create`, `storesOrRejects_createTree`: what becomes of a program that is to be
  stored, by its text or as a tree;
* `outcome_fetch_of_bytes`: an entry that stands under its digest is fetched.
-/

namespace Formulary.Registry

open Store (outcome outcome_adapt outcome_bind outcome_bind_of_error outcome_bind_of_none
  outcome_bind_of_ok outcome_emit outcome_liftM outcome_read Looked Observes Passes Receives)

variable {α : Type}

/-- The tree of a source if it is a valid program, and otherwise what is wrong with it. -/
def verdict (registry : Registry) (source : String) : Except Rejection Expr :=
  match Expr.parse registry.depthLimit source with
  | .error error => .error (.unparsable error)
  | .ok tree =>
    match tree.validate with
    | .error violation => .error (.invalid violation)
    | .ok () => .ok tree

theorem verdict_eq_ok_iff {registry : Registry} {source : String} {tree : Expr} :
    registry.verdict source = .ok tree ↔
      Expr.parse registry.depthLimit source = .ok tree ∧ tree.validate = .ok () := by
  rw [verdict]
  rcases Expr.parse registry.depthLimit source with error | found
  · simp
  · rcases hvalid : found.validate with violation | _
    · grind
    · grind

/-- Asking whether a source is accepted leaves what checking it leaves. -/
theorem accepts_eq (registry : Registry) (source : String) (s : Store) :
    ((registry.accepts source).run.run s).2 = (outcome (registry.check source) s).2 := by
  have hrun : (registry.accepts source).run.run s =
      match outcome (registry.check source) s with
      | (some r, t) => (some r.isOk, t)
      | (none, t) => (none, t) := by
    unfold accepts outcome
    simp only [OptionT.run_bind, Option.elimM, StateT.run_bind]
    rcases (registry.check source).run.run.run s with ⟨_ | r, t⟩ <;> rfl
  rw [hrun]
  rcases outcome (registry.check source) s with ⟨_ | r, t⟩ <;> rfl

theorem outcome_reject (rejection : Rejection) (s : Store) :
    ∃ log, outcome (reject rejection : Request α) s = (some (.error rejection), { s with log }) :=
  ⟨_, rfl⟩

theorem outcome_orReject (part : Except Rejection α) (s : Store) :
    ∃ log, outcome (orReject part) s = (some part, { s with log }) := by
  cases part with
  | ok a => exact ⟨s.log, rfl⟩
  | error rejection => exact outcome_reject rejection s

/-- A check gives the verdict and leaves nothing but events. -/
theorem outcome_check (registry : Registry) (source : String) (s : Store) :
    ∃ log, outcome (registry.check source) s =
      (some (registry.verdict source), { s with log }) := by
  unfold check verdict Expr.parse
  rw [outcome_bind_of_ok (outcome_emit _ s), outcome_bind_of_ok (outcome_emit _ _)]
  dsimp only
  rcases Expr.Parse.tokens registry.depthLimit (Token.tokenize source) with error | tree
  · exact ⟨_, rfl⟩
  · have hread (t : Store) :
        outcome (orReject (Except.mapError Rejection.unparsable (.ok tree))) t =
          (some (.ok tree), t) := rfl
    rw [outcome_bind_of_ok (hread _), outcome_bind_of_ok (outcome_emit _ _)]
    dsimp only
    rcases tree.validate with violation | _
    · exact ⟨_, rfl⟩
    · exact ⟨_, rfl⟩

theorem observes_check (registry : Registry) (source : String) :
    Observes (registry.check source) := by
  intro s
  obtain ⟨log, h⟩ := outcome_check registry source s
  rw [h]
  exact Passes.of_log s log

theorem outcome_onStore_holds (d : Digest) (s : Store) :
    outcome (onStore (Store.holds d)) s =
      (some (((s.fetch? d).map Option.isSome).mapError .store), s.lookedAt d) := by
  rw [onStore, outcome_adapt, Store.holds, outcome_bind, outcome_read]
  rcases s.fetch? d with error | found <;> rfl

/-- What is found of operands: that all of them are visible, or what is wrong with the first that
    is not. -/
def operandsVerdict (s : Store) : List Digest → Except Rejection Unit
  | [] => .ok ()
  | d :: ds =>
    match s.fetch? d with
    | .error error => .error (.store error)
    | .ok none => .error (.missingOperand d)
    | .ok (some _) => operandsVerdict s ds

/-- Looks before make no difference. -/
theorem operandsVerdict_of_looked {s t : Store} (h : Looked s t) (operands : List Digest) :
    operandsVerdict t operands = operandsVerdict s operands := by
  induction operands with
  | nil => rfl
  | cons d ds ih => rw [operandsVerdict, operandsVerdict, h.fetch?_eq, ih]

/-- The operands are looked at in turn, as far as the first that cannot be seen. -/
theorem outcome_checkOperands (operands : List Digest) (s : Store) :
    ∃ t, Looked s t ∧
      outcome (checkOperands operands) s = (some (operandsVerdict s operands), t) := by
  induction operands generalizing s with
  | nil => exact ⟨s, .refl s, rfl⟩
  | cons d ds ih =>
    have hlooked := Looked.lookedAt s d
    obtain ⟨t, ht, hrest⟩ := ih (s.lookedAt d)
    rw [operandsVerdict_of_looked hlooked] at hrest
    unfold checkOperands operandsVerdict
    rw [outcome_bind, outcome_onStore_holds]
    rcases s.fetch? d with error | _ | b
    · exact ⟨_, hlooked, rfl⟩
    · exact ⟨_, hlooked.trans (.of_log _ _), rfl⟩
    · exact ⟨t, hlooked.trans ht, hrest⟩

/-! ## Storing -/

/-- A request leaves the bytes of the store as they are and is rejected, or the entry is received
    and its digest given unless the clock runs out. -/
def StoresOrRejects (x : Request Digest) (entry : Entry) (s : Store) : Prop :=
  ∃ t, (∃ rejection, outcome x s = (some (.error rejection), t) ∧ t.bytes? = s.bytes?) ∨
    Receives s entry.digest entry.encode t ∧
      (outcome x s = (some (.ok entry.digest), t) ∨ outcome x s = (none, t))

/-- What is received after looks at a store is received by the store. -/
theorem receives_of_looked {s t u : Store} {d : Digest} {b : Bytes} (hu : Looked s u)
    (h : Receives u d b t) : Receives s d b t := by
  intro e
  rw [h e, hu.bytes?_eq]

theorem storesOrRejects_storeEntry (entry : Entry) (s : Store) :
    StoresOrRejects (storeEntry entry) entry s := by
  obtain ⟨u, hu, hoperands⟩ := outcome_checkOperands entry.operands s
  rcases hverdict : operandsVerdict s entry.operands with rejection | _ <;>
    rw [hverdict] at hoperands
  · exact ⟨_, .inl ⟨rejection, outcome_bind_of_error hoperands _, hu.bytes?_eq⟩⟩
  -- errors of the store are results here, so that they can be told before they are raised
  have hput : outcome (liftM (Store.put entry).run : Request _) u =
      ((outcome (Store.put entry) u).1.map .ok, (outcome (Store.put entry) u).2) :=
    outcome_liftM _ _
  unfold StoresOrRejects storeEntry
  rw [outcome_bind_of_ok hoperands]
  rcases Store.outcome_put_cases entry u with ⟨error, h⟩ | ⟨t, ht, h | h⟩ <;> rw [h] at hput
  · obtain ⟨log, hreject⟩ := outcome_orReject
      (Except.mapError Rejection.store (.error error : Except Store.Error Digest)) u
    exact ⟨_, .inl ⟨.store error,
      (outcome_bind_of_ok hput _).trans (outcome_bind_of_error hreject _), hu.bytes?_eq⟩⟩
  · exact ⟨{ t with log := t.log ++ [.stored entry.digest] ++
      [.done entry.digest entry.operands.length] },
      .inr ⟨receives_of_looked hu ht, .inl (outcome_bind_of_ok hput _)⟩⟩
  · exact ⟨t, .inr ⟨receives_of_looked hu ht, .inr (outcome_bind_of_none hput _)⟩⟩

/-- A program that is accepted is stored with its tree. -/
theorem storesOrRejects_create {registry : Registry} {source : String} {tree : Expr}
    (h : registry.verdict source = .ok tree) (operands : List Digest) (s : Store) :
    StoresOrRejects (registry.create source operands) ⟨source, tree, operands⟩ s := by
  obtain ⟨log, hcheck⟩ := outcome_check registry source s
  rw [h] at hcheck
  rw [StoresOrRejects, create, outcome_bind_of_ok hcheck]
  exact storesOrRejects_storeEntry ⟨source, tree, operands⟩ { s with log }

theorem outcome_create_of_error {registry : Registry} {source : String} {rejection : Rejection}
    (h : registry.verdict source = .error rejection) (operands : List Digest) (s : Store) :
    ∃ log, outcome (registry.create source operands) s =
      (some (.error rejection), { s with log }) := by
  obtain ⟨log, hcheck⟩ := outcome_check registry source s
  rw [h] at hcheck
  exact ⟨log, outcome_bind_of_error hcheck _⟩

/-- The text of a valid tree is read as no other tree. -/
theorem eq_of_verdict_render {registry : Registry} {tree parsed : Expr}
    (hvalid : tree.validate = .ok ()) (h : registry.verdict tree.render = .ok parsed) :
    parsed = tree := by
  obtain ⟨hparse, -⟩ := verdict_eq_ok_iff.1 h
  obtain ⟨hkinds, hplain, -⟩ := Expr.parse_eq_ok_iff.1 hparse
  have hrender := Expr.map_kind_tokenize_render (Expr.validNames_of_validate hvalid)
  rw [Token.map_kind_tokenize, hkinds] at hrender
  exact Expr.Parse.eq_of_flatten_eq hplain (Expr.plainOperators_of_validate hvalid) hrender

/-- A tree that passes the checks is treated as its text. -/
theorem outcome_createTree_of_valid {registry : Registry} {tree : Expr}
    (hdepth : tree.exceedsDepth registry.depthLimit = false) (hvalid : tree.validate = .ok ())
    (operands : List Digest) (s : Store) :
    outcome (registry.createTree tree operands) s =
      outcome (registry.create tree.render operands) s := by
  rw [createTree, hdepth, hvalid]
  exact outcome_bind_of_ok rfl _

/-- A tree is rejected before its text is looked at, or passes the checks and is treated as it. -/
theorem outcome_createTree_cases_of_checks (registry : Registry) (tree : Expr)
    (operands : List Digest) (s : Store) :
    (∃ rejection log,
      outcome (registry.createTree tree operands) s = (some (.error rejection), { s with log })) ∨
    tree.validate = .ok () ∧
      outcome (registry.createTree tree operands) s =
        outcome (registry.create tree.render operands) s := by
  rcases hdepth : tree.exceedsDepth registry.depthLimit with _ | _
  · rcases hvalid : tree.validate with violation | _
    · obtain ⟨log, hreject⟩ := outcome_orReject
        (Except.mapError Rejection.invalid (.error violation : Except Expr.Violation Unit)) s
      refine .inl ⟨.invalid violation, log, ?_⟩
      rw [createTree, hdepth, hvalid]
      exact outcome_bind_of_error hreject _
    · exact .inr ⟨rfl, outcome_createTree_of_valid hdepth hvalid operands s⟩
  · obtain ⟨log, hreject⟩ := outcome_reject (α := Unit) (.invalid (.tooDeep registry.depthLimit)) s
    refine .inl ⟨.invalid (.tooDeep registry.depthLimit), log, ?_⟩
    rw [createTree, hdepth]
    exact outcome_bind_of_error hreject _

/-- A tree is rejected before anything is stored, or its text is accepted and stored with it. -/
theorem outcome_createTree_cases (registry : Registry) (tree : Expr) (operands : List Digest)
    (s : Store) :
    (∃ rejection log,
      outcome (registry.createTree tree operands) s = (some (.error rejection), { s with log })) ∨
    registry.verdict tree.render = .ok tree ∧
      StoresOrRejects (registry.createTree tree operands) ⟨tree.render, tree, operands⟩ s := by
  rcases outcome_createTree_cases_of_checks registry tree operands s with h | ⟨hvalid, h⟩
  · exact .inl h
  · -- the tree is treated as its text, so the text is checked once more
    rw [StoresOrRejects, h]
    rcases hverdict : registry.verdict tree.render with rejection | parsed
    · obtain ⟨log, h⟩ := outcome_create_of_error hverdict operands s
      exact .inl ⟨rejection, log, h⟩
    · obtain rfl := eq_of_verdict_render hvalid hverdict
      exact .inr ⟨rfl, storesOrRejects_create hverdict operands s⟩

/-- A tree whose text is accepted is stored with its text. -/
theorem storesOrRejects_createTree (registry : Registry) (tree : Expr) (operands : List Digest)
    (s : Store) :
    StoresOrRejects (registry.createTree tree operands) ⟨tree.render, tree, operands⟩ s := by
  rcases outcome_createTree_cases registry tree operands s with ⟨rejection, log, h⟩ | ⟨-, h⟩
  · exact ⟨_, .inl ⟨rejection, h, rfl⟩⟩
  · exact h

/-! ## Fetching -/

theorem observes_verified (d : Digest) (entry : Entry) : Observes (verified d entry) := by
  rw [verified]
  rcases entry.verify Expr.greatestMaxDepth with mismatch | _
  · exact (Observes.emit _).bind fun _ => .throw _
  · exact .pure _

theorem observes_fetch (d : Digest) : Observes (fetch d) :=
  (Store.observes_fetch d).adapt.bind fun entry => observes_verified d entry

theorem observes_await (registry : Registry) (d : Digest) : Observes (registry.await d) :=
  (Store.observes_await d _).adapt.bind fun entry => observes_verified d entry

theorem observes_digests : Observes digests :=
  Store.observes_digests.adapt

/-- An accepted program goes together with its tree for whoever fetches it, whatever their rules. -/
theorem verify_of_verdict {registry : Registry} {source : String} {tree : Expr}
    (h : registry.verdict source = .ok tree) (operands : List Digest) :
    Entry.verify Expr.greatestMaxDepth ⟨source, tree, operands⟩ = .ok () := by
  obtain ⟨hparse, hvalid⟩ := verdict_eq_ok_iff.1 h
  obtain ⟨hkinds, hplain, hdepth⟩ := Expr.parse_eq_ok_iff.1 hparse
  -- no limit exceeds the greatest, with which the text is read again
  have hagain : Expr.parse Expr.greatestMaxDepth source = .ok tree :=
    Expr.parse_eq_ok_iff.2 ⟨hkinds, hplain, by omega⟩
  simp only [Entry.verify, hagain, hvalid, if_true]

/-- What stands under its digest as it was encoded, and may be seen, is fetched, and nothing is left
    of that but the look. -/
theorem outcome_fetch_of_bytes {entry : Entry} {s : Store}
    (hbytes : s.bytes? entry.digest = .ok (some entry.encode)) (hvisible : s.isVisible entry.digest)
    (hdecode : Entry.decode entry.encode = .ok entry)
    (hverify : entry.verify Expr.greatestMaxDepth = .ok ()) :
    outcome (fetch entry.digest) s = (some (.ok entry), s.lookedAt entry.digest) := by
  have hread : outcome (Store.read entry.digest) s =
      (some (.ok (some entry.encode)), s.lookedAt entry.digest) := by
    rw [outcome_read, Store.fetch?, if_pos hvisible, hbytes]
  have hfetch : outcome (Store.fetch entry.digest) s =
      (some (.ok entry), s.lookedAt entry.digest) := by
    have hdigest : ¬Digest.of entry.encode ≠ entry.digest := fun h => h rfl
    rw [Store.fetch, outcome_bind_of_ok hread]
    dsimp only
    rw [if_neg hdigest, hdecode]
    rfl
  have hserve : outcome (onStore (Store.fetch entry.digest)) s =
      (some (.ok entry), s.lookedAt entry.digest) := by
    rw [onStore, outcome_adapt, hfetch]
    rfl
  rw [fetch, outcome_bind_of_ok hserve, verified, hverify]
  rfl

end Formulary.Registry
