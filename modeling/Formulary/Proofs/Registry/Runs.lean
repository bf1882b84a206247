import Formulary.Proofs.Registry.Outcomes

/-!
# Runs over a store

Clients of any registries call operations on one store, one after the other, and time passes between
the calls (`Run`). Whatever they do, the store holds the entries that were stored in the run and
nothing else: under a digest there is the encoding of an entry of this digest, and for every stored
entry there is something under its digest (`Holds`, `holds_of_run`).

* `fetch_of_create`: an entry is fetched as it was created, by anyone, wherever it is visible.
-/

namespace Formulary.Registry

open Store (outcome Observes Passes Receives)

/-! ## Calls -/

/-- What a client can ask for. -/
inductive Operation
  | check (source : String)
  | accepts (source : String)
  | create (source : String) (operands : List Digest)
  | createTree (tree : Expr) (operands : List Digest)
  | fetch (d : Digest)
  | await (d : Digest)
  | digests

/-- An operation that a registry is asked for. -/
structure Call where
  registry : Registry
  operation : Operation

namespace Call

/-- The store that a call leaves, whether it is served, rejected or broken off. -/
def after (s : Store) : Call → Store
  | ⟨registry, .check source⟩ => (outcome (registry.check source) s).2
  | ⟨registry, .accepts source⟩ => ((registry.accepts source).run.run s).2
  | ⟨registry, .create source operands⟩ => (outcome (registry.create source operands) s).2
  | ⟨registry, .createTree tree operands⟩ => (outcome (registry.createTree tree operands) s).2
  | ⟨_, .fetch d⟩ => (outcome (Registry.fetch d) s).2
  | ⟨registry, .await d⟩ => (outcome (registry.await d) s).2
  | ⟨_, .digests⟩ => (outcome Registry.digests s).2

/-- The call stores the entry: that of its program, unless it is rejected. -/
inductive Stores (s : Store) : Call → Entry → Prop
  | create {registry : Registry} {source : String} {operands : List Digest} {tree : Expr}
      (hverdict : registry.verdict source = .ok tree)
      (hserved : ∀ rejection,
        (outcome (registry.create source operands) s).1 ≠ some (.error rejection)) :
      Stores s ⟨registry, .create source operands⟩ ⟨source, tree, operands⟩
  | createTree {registry : Registry} {tree : Expr} {operands : List Digest}
      (hserved : ∀ rejection,
        (outcome (registry.createTree tree operands) s).1 ≠ some (.error rejection)) :
      Stores s ⟨registry, .createTree tree operands⟩ ⟨tree.render, tree, operands⟩

end Call

/-- The request of a call that is to store an entry. -/
def Call.storing? : Call → Option (Request Digest)
  | ⟨registry, .create source operands⟩ => some (registry.create source operands)
  | ⟨registry, .createTree tree operands⟩ => some (registry.createTree tree operands)
  | _ => none

/-- A call does what its request does. -/
theorem Call.after_eq {call : Call} {x : Request Digest} (h : call.storing? = some x) (s : Store) :
    call.after s = (outcome x s).2 := by
  obtain ⟨registry, operation⟩ := call
  cases operation <;> simp only [storing?, Option.some.injEq, reduceCtorEq] at h <;> subst h <;> rfl

/-- A call that is to store nothing just looks at the store. -/
theorem Call.passes_after {call : Call} (h : call.storing? = none) (s : Store) :
    Passes s (call.after s) := by
  obtain ⟨registry, operation⟩ := call
  cases operation with
  | check source => exact observes_check registry source s
  | accepts source =>
    rw [after, accepts_eq]
    exact observes_check registry source s
  | create source operands => cases h
  | createTree tree operands => cases h
  | fetch d => exact observes_fetch d s
  | await d => exact observes_await registry d s
  | digests => exact observes_digests s

/-- What holds of requests that store an entry or are rejected holds of the calls for them. -/
theorem Call.after_cases_of_stores {call : Call} {x : Request Digest} {entry : Entry} {s : Store}
    (hafter : call.after s = (outcome x s).2)
    (hstores : ∀ e, call.Stores s e ↔
      e = entry ∧ ∀ rejection, (outcome x s).1 ≠ some (.error rejection))
    (h : StoresOrRejects x entry s) :
    ((∀ e, ¬call.Stores s e) ∧ (call.after s).bytes? = s.bytes?) ∨
    ∃ entry, (∀ e, call.Stores s e ↔ e = entry) ∧
      Receives s entry.digest entry.encode (call.after s) := by
  simp only [hafter, hstores]
  obtain ⟨t, ⟨rejection, h, hbytes⟩ | ⟨ht, h | h⟩⟩ := h
  · rw [h]
    exact .inl ⟨fun e he => he.2 rejection rfl, hbytes⟩
  · rw [h]
    exact .inr ⟨entry, by simp, ht⟩
  · rw [h]
    exact .inr ⟨entry, by simp, ht⟩

/-- The call changes no bytes and stores no entry, or it stores one, which the store receives. -/
theorem Call.after_cases (call : Call) (s : Store) :
    ((∀ e, ¬call.Stores s e) ∧ (call.after s).bytes? = s.bytes?) ∨
    ∃ entry, (∀ e, call.Stores s e ↔ e = entry) ∧
      Receives s entry.digest entry.encode (call.after s) := by
  obtain ⟨registry, operation⟩ := call
  cases operation with
  | create source operands =>
    rcases hverdict : registry.verdict source with rejection | tree
    · obtain ⟨log, h⟩ := outcome_create_of_error hverdict operands s
      refine .inl ⟨fun e he => ?_, ?_⟩
      · cases he with
        | create hother => simp [hverdict] at hother
      · rw [after, h]
        rfl
    · refine after_cases_of_stores rfl (fun e => ⟨fun he => ?_, ?_⟩)
        (storesOrRejects_create hverdict operands s)
      · cases he with
        | create hother hserved =>
          rw [hverdict] at hother
          cases hother
          exact ⟨rfl, hserved⟩
      · rintro ⟨rfl, hserved⟩
        exact .create hverdict hserved
  | createTree tree operands =>
    refine after_cases_of_stores rfl (fun e => ⟨fun he => ?_, ?_⟩)
      (storesOrRejects_createTree registry tree operands s)
    · cases he with
      | createTree hserved => exact ⟨rfl, hserved⟩
    · rintro ⟨rfl, hserved⟩
      exact .createTree hserved
  | check | accepts | fetch | await | digests =>
    exact .inl ⟨fun _ => nofun, (passes_after rfl s).bytes?_eq⟩

/-- What is stored was accepted. -/
theorem Call.Stores.verdict_eq {call : Call} {s : Store} {entry : Entry} (h : call.Stores s entry) :
    call.registry.verdict entry.operator = .ok entry.parsed := by
  cases h with
  | create hverdict hserved => exact hverdict
  | @createTree registry tree operands hserved =>
    rcases outcome_createTree_cases registry tree operands s with ⟨rejection, log, h⟩ | ⟨h, -⟩
    · exact absurd (by rw [h]) (hserved rejection)
    · exact h

/-! ## Runs -/

/-- Time has passed, and nobody has touched what the store holds. The rest of the disk may be
    different, and so may the log and what the store remembers of when bytes become visible. -/
structure Elapses (s t : Store) : Prop where
  shelf_eq : t.shelf = s.shelf
  now_le : s.now ≤ t.now
  bytes?_eq : t.bytes? = s.bytes?

/-- A run from a store to another one, with the calls so far, last one first, each with the store
    that it was made on. -/
inductive Run (s : Store) : List (Store × Call) → Store → Prop
  | start : Run s [] s
  | elapse {past : List (Store × Call)} {t u : Store} (h : Run s past t) (hu : Elapses t u) :
      Run s past u
  | call {past : List (Store × Call)} {t : Store} (h : Run s past t) (call : Call) :
      Run s ((t, call) :: past) (call.after t)

/-- The entry was stored by one of the calls. -/
def Stored (past : List (Store × Call)) (entry : Entry) : Prop :=
  ∃ p ∈ past, p.2.Stores p.1 entry

/-- No two of the encodings that were stored have the same digest. -/
def CollisionFree (past : List (Store × Call)) : Prop :=
  ∀ e f, Stored past e → Stored past f → e.digest = f.digest → e.encode = f.encode

/-! ## What a store holds -/

/-- The store holds the entries and nothing else, though of those with the same digest only one. -/
structure Holds (s : Store) (entries : Entry → Prop) : Prop where
  sound : ∀ d, s.bytes? d = .ok none ∨
    ∃ e, entries e ∧ e.digest = d ∧ s.bytes? d = .ok (some e.encode)
  complete : ∀ e, entries e → s.bytes? e.digest ≠ .ok none

namespace Holds

variable {s t : Store} {entries : Entry → Prop}

theorem of_bytes?_eq (h : Holds s entries) (ht : t.bytes? = s.bytes?) : Holds t entries :=
  ⟨ht ▸ h.sound, ht ▸ h.complete⟩

/-- What is under a digest can always be told. -/
theorem exists_bytes?_eq (h : Holds s entries) (d : Digest) : ∃ found, s.bytes? d = .ok found := by
  rcases h.sound d with hnone | ⟨e, -, -, hbytes⟩
  · exact ⟨none, hnone⟩
  · exact ⟨some e.encode, hbytes⟩

/-- An entry that is received is held as well, also if another one of its digest is. -/
theorem receives {entry : Entry} (h : Holds s entries)
    (ht : Receives s entry.digest entry.encode t) : Holds t fun e => e = entry ∨ entries e := by
  refine ⟨fun d => ?_, fun e he => ?_⟩
  · rw [ht d]
    split_ifs with hd
    · exact .inr ⟨entry, .inl rfl, hd.1.symm, rfl⟩
    · exact (h.sound d).imp id fun ⟨e, he, hdigest, hbytes⟩ => ⟨e, .inr he, hdigest, hbytes⟩
  · -- where nothing is received there was something before
    rw [ht e.digest]
    split_ifs with hd
    · simp
    · rcases he with rfl | he
      · exact fun hnone => hd ⟨rfl, hnone⟩
      · exact h.complete e he

end Holds

/-- What is held is kept up by each call, whichever it is. -/
theorem holds_after_call {t : Store} {past : List (Store × Call)} (h : Holds t (Stored past))
    (call : Call) : Holds (call.after t) (Stored ((t, call) :: past)) := by
  have hstored (e : Entry) : Stored ((t, call) :: past) e ↔ call.Stores t e ∨ Stored past e := by
    simp [Stored]
  have hentries : Stored ((t, call) :: past) = fun e => call.Stores t e ∨ Stored past e :=
    funext fun e => propext (hstored e)
  rw [hentries]
  rcases call.after_cases t with ⟨hnone, hbytes⟩ | ⟨entry, hentry, hreceives⟩
  · simp only [hnone, false_or]
    exact h.of_bytes?_eq hbytes
  · simp only [hentry]
    exact h.receives hreceives

theorem holds_of_empty {s : Store} (hempty : s.IsEmpty) : Holds s (Stored []) :=
  ⟨fun d => .inl (hempty d), fun e he => by simp [Stored] at he⟩

theorem holds_of_run {s t : Store} {past : List (Store × Call)} (hempty : s.IsEmpty)
    (h : Run s past t) : Holds t (Stored past) := by
  induction h with
  | start => exact holds_of_empty hempty
  | elapse h hu ih => exact ih.of_bytes?_eq hu.bytes?_eq
  | call h call ih => exact holds_after_call ih call

/-- Unless digests collide an entry that was stored stands under its digest. -/
theorem bytes?_eq_of_stored {s t : Store} {past : List (Store × Call)}
    (hempty : s.IsEmpty) (h : Run s past t) (hfree : CollisionFree past)
    {entry : Entry} (hentry : Stored past entry) :
    t.bytes? entry.digest = .ok (some entry.encode) := by
  have hholds := holds_of_run hempty h
  rcases hholds.sound entry.digest with hnone | ⟨other, hother, hdigest, hbytes⟩
  · exact absurd hnone (hholds.complete entry hentry)
  · rw [hbytes, hfree other entry hother hentry hdigest]

/-- So it is fetched wherever it is visible, and a look is all that the store has seen of that. -/
theorem outcome_fetch_of_stored {s t : Store} {past : List (Store × Call)}
    (hempty : s.IsEmpty) (h : Run s past t) (hfree : CollisionFree past)
    {entry : Entry} (hentry : Stored past entry) (hvisible : t.isVisible entry.digest) :
    outcome (fetch entry.digest) t = (some (.ok entry), t.lookedAt entry.digest) := by
  obtain ⟨p, -, hstores⟩ := id hentry
  have hverdict := hstores.verdict_eq
  obtain ⟨hparse, -⟩ := verdict_eq_ok_iff.1 hverdict
  obtain ⟨-, -, hdepth⟩ := Expr.parse_eq_ok_iff.1 hparse
  exact outcome_fetch_of_bytes (bytes?_eq_of_stored hempty h hfree hentry) hvisible
    (Entry.decode_encode_of_formDepth_le (hdepth.trans (Nat.min_le_right _ _)))
    (verify_of_verdict hverdict entry.operands)

/-! ## Fetching what was created -/

theorem eq_digest_of_ok {x : Request Digest} {entry : Entry} {s : Store} {d : Digest}
    (h : StoresOrRejects x entry s) (hok : (outcome x s).1 = some (.ok d)) : d = entry.digest := by
  obtain ⟨t, ⟨rejection, h, -⟩ | ⟨-, h | h⟩⟩ := h <;> rw [h] at hok
  · simp at hok
  · simpa using hok.symm
  · simp at hok

/-- An entry that was created is fetched wherever it is visible, with the text byte for byte, the
    tree that a check of it gives and the operands in order, by whomever it was created, whatever
    was asked for before and after, and whatever rules those who fetch it have. -/
theorem fetch_of_create {s t : Store} {past : List (Store × Call)} (hempty : s.IsEmpty)
    (hrun : Run s past t) (hfree : CollisionFree past) :
    (∀ (u : Store) (registry : Registry) (source : String) (operands : List Digest) (d : Digest),
      (u, ⟨registry, .create source operands⟩) ∈ past →
      (outcome (registry.create source operands) u).1 = some (.ok d) → t.isVisible d →
      ∃ tree, (∀ v, (outcome (registry.check source) v).1 = some (.ok tree)) ∧
        outcome (fetch d) t = (some (.ok ⟨source, tree, operands⟩), t.lookedAt d)) ∧
    ∀ (u : Store) (registry : Registry) (tree : Expr) (operands : List Digest) (d : Digest),
      (u, ⟨registry, .createTree tree operands⟩) ∈ past →
      (outcome (registry.createTree tree operands) u).1 = some (.ok d) → t.isVisible d →
      outcome (fetch d) t = (some (.ok ⟨tree.render, tree, operands⟩), t.lookedAt d) := by
  constructor
  · intro u registry source operands d hmem hok hvisible
    have hserved (rejection : Rejection) :
        (outcome (registry.create source operands) u).1 ≠ some (.error rejection) := by
      rw [hok]
      simp
    rcases hverdict : registry.verdict source with rejection | tree
    · obtain ⟨log, h⟩ := outcome_create_of_error hverdict operands u
      exact absurd (by rw [h]) (hserved rejection)
    · refine ⟨tree, fun v => ?_, ?_⟩
      · obtain ⟨log, h⟩ := outcome_check registry source v
        rw [h, hverdict]
      · obtain rfl := eq_digest_of_ok (storesOrRejects_create hverdict operands u) hok
        exact outcome_fetch_of_stored hempty hrun hfree
          ⟨_, hmem, .create hverdict hserved⟩ hvisible
  · intro u registry tree operands d hmem hok hvisible
    have hserved (rejection : Rejection) :
        (outcome (registry.createTree tree operands) u).1 ≠ some (.error rejection) := by
      rw [hok]
      simp
    rcases outcome_createTree_cases registry tree operands u with ⟨rejection, log, h⟩ | ⟨-, h⟩
    · exact absurd (by rw [h]) (hserved rejection)
    · obtain rfl := eq_digest_of_ok h hok
      exact outcome_fetch_of_stored hempty hrun hfree ⟨_, hmem, .createTree hserved⟩ hvisible

/-- What is created in a store that takes five nanoseconds to settle is fetched after these. -/
theorem fetch_of_create_settling :
    (outcome (fetch (Entry.digest ⟨"(f x)", .apply (.symbol "f") [.symbol "x"], []⟩))
      { Call.after (Store.inMemory (some 5) Disk.empty 0) ⟨⟨3, ⟨0, 0⟩⟩, .create "(f x)" []⟩ with
        now := 5 }).1 =
      some (.ok ⟨"(f x)", .apply (.symbol "f") [.symbol "x"], []⟩) := by
  let s : Store := Store.inMemory (some 5) Disk.empty 0
  let call : Call := ⟨⟨3, ⟨0, 0⟩⟩, .create "(f x)" []⟩
  let t : Store := { call.after s with now := 5 }
  let entry : Entry := ⟨"(f x)", .apply (.symbol "f") [.symbol "x"], []⟩
  have hrun : Run s [(s, call)] t := (Run.start.call call).elapse ⟨rfl, by decide +kernel, rfl⟩
  -- only one entry is stored, so there is no other to collide with
  have hfree : CollisionFree [(s, call)] := by
    rintro e f ⟨p, hp, he⟩ ⟨q, hq, hf⟩ -
    obtain rfl := List.mem_singleton.1 hp
    obtain rfl := List.mem_singleton.1 hq
    cases he with
    | create he =>
      cases hf with
      | create hf =>
        rw [he] at hf
        cases hf
        rfl
  have hvisible : t.isVisible entry.digest := by decide +kernel
  obtain ⟨tree, hcheck, hfetch⟩ := (fetch_of_create (Store.isEmpty_inMemory _ _ _) hrun hfree).1
    s _ _ _ entry.digest List.mem_cons_self (by decide +kernel) hvisible
  have htree : (outcome (check ⟨3, ⟨0, 0⟩⟩ "(f x)") s).1 = some (.ok entry.parsed) := by
    decide +kernel
  rw [hcheck s] at htree
  cases htree
  exact congrArg Prod.fst hfetch

end Formulary.Registry
