import Formulary.Proofs.Registry.Runs
import Formulary.Proofs.Store.Looking
import Mathlib.Logic.Relation

/-!
# Operands come first

A program is stored only if all its operands are visible, and what is stored once stays. So in a
run over a store that was empty the calls number the entries in an order in which every operand
comes before the entries that name it (`StoredAt`), whatever digests those may have.

* `operands_stored_before`: no stored entry names something that is not stored, nor itself, be it
  by way of others.
-/

namespace Formulary.Registry

open Store (outcome outcome_bind_of_error outcome_bind_of_ok Looked Receives)

/-! ## Accepted operands -/

theorem operandsVerdict_eq_ok_iff {s : Store} {ds : List Digest} :
    operandsVerdict s ds = .ok () ↔ ∀ d ∈ ds, ∃ b, s.fetch? d = .ok (some b) := by
  induction ds with
  | nil => simp [operandsVerdict]
  | cons d ds ih =>
    rw [operandsVerdict, List.forall_mem_cons]
    rcases s.fetch? d with error | _ | b
    · simp
    · simp
    · simp [ih]

/-- An operand that cannot be seen is told, and the store has seen no more than looks. -/
theorem outcome_storeEntry_of_error (entry : Entry) {s : Store} {rejection : Rejection}
    (h : operandsVerdict s entry.operands = .error rejection) :
    ∃ t, Looked s t ∧ outcome (storeEntry entry) s = (some (.error rejection), t) := by
  obtain ⟨t, ht, hoperands⟩ := outcome_checkOperands entry.operands s
  rw [h] at hoperands
  exact ⟨t, ht, outcome_bind_of_error hoperands _⟩

/-- A program is stored only against operands that are visible. -/
theorem operandsVerdict_of_create {registry : Registry} {source : String} {tree : Expr}
    {operands : List Digest} {s : Store} (hverdict : registry.verdict source = .ok tree)
    (hserved : ∀ rejection,
      (outcome (registry.create source operands) s).1 ≠ some (.error rejection)) :
    operandsVerdict s operands = .ok () := by
  obtain ⟨log, hcheck⟩ := outcome_check registry source s
  rw [hverdict] at hcheck
  rw [create, outcome_bind_of_ok hcheck] at hserved
  rcases hoperands : operandsVerdict s operands with rejection | _
  · -- the check of the source leaves nothing but events, so the operands are the same after it
    rw [← operandsVerdict_of_looked (.of_log s log)] at hoperands
    obtain ⟨t, -, h⟩ := outcome_storeEntry_of_error ⟨source, tree, operands⟩ hoperands
    exact absurd (congrArg Prod.fst h) (hserved rejection)
  · rfl

namespace Call.Stores

variable {call : Call} {s : Store} {entry : Entry}

/-- What is stored names only entries that are visible then. -/
theorem exists_fetch? (h : call.Stores s entry) :
    ∀ o ∈ entry.operands, ∃ b, s.fetch? o = .ok (some b) := by
  cases h with
  | create hverdict hserved =>
    exact operandsVerdict_eq_ok_iff.1 (operandsVerdict_of_create hverdict hserved)
  | @createTree registry tree operands hserved =>
    rcases outcome_createTree_cases registry tree operands s with ⟨rejection, _, h⟩ | ⟨hverdict, -⟩
    · exact absurd (by rw [h]) (hserved rejection)
    rcases outcome_createTree_cases_of_checks registry tree operands s with
      ⟨rejection, _, h⟩ | ⟨-, h⟩
    · exact absurd (by rw [h]) (hserved rejection)
    · rw [h] at hserved
      exact operandsVerdict_eq_ok_iff.1 (operandsVerdict_of_create hverdict hserved)

theorem decode_encode (h : call.Stores s entry) : Entry.decode entry.encode = .ok entry := by
  obtain ⟨hparse, -⟩ := verdict_eq_ok_iff.1 h.verdict_eq
  obtain ⟨-, -, hdepth⟩ := Expr.parse_eq_ok_iff.1 hparse
  exact Entry.decode_encode_of_formDepth_le (hdepth.trans (Nat.min_le_right _ _))

end Call.Stores

/-! ## The order of storing -/

/-- The call with the number, the first one having number zero, found nothing under the digest in
    the store `u` and left something there. -/
inductive StoredAt : List (Store × Call) → Digest → Nat → Store → Prop
  | last {past : List (Store × Call)} {u : Store} {call : Call} {d : Digest}
      (hfree : u.bytes? d = .ok none) (hstored : (call.after u).bytes? d ≠ .ok none) :
      StoredAt ((u, call) :: past) d past.length u
  | earlier {past : List (Store × Call)} {p : Store × Call} {d : Digest} {n : Nat} {u : Store}
      (h : StoredAt past d n u) : StoredAt (p :: past) d n u

theorem StoredAt.lt_length {past : List (Store × Call)} {d : Digest} {n : Nat} {u : Store}
    (h : StoredAt past d n u) : n < past.length := by
  induction h with
  | last => exact Nat.lt_succ_self _
  | earlier h ih => exact Nat.lt_succ_of_lt ih

/-- A call leaves what stands under a digest as it is. -/
theorem Call.bytes?_after {call : Call} {s : Store} {d : Digest} (h : s.bytes? d ≠ .ok none) :
    (call.after s).bytes? d = s.bytes? d := by
  rcases call.after_cases s with ⟨-, hbytes⟩ | ⟨entry, -, hreceives⟩
  · rw [hbytes]
  · rw [hreceives d, if_neg]
    rintro ⟨rfl, hnone⟩
    exact h hnone

variable {s t : Store} {past : List (Store × Call)}

/-- What was stored by some call is there at the end. -/
theorem StoredAt.bytes?_ne_none {d : Digest} {n : Nat} {u : Store} (hstored : StoredAt past d n u)
    (h : Run s past t) : t.bytes? d ≠ .ok none := by
  induction h with
  | start => cases hstored
  | elapse h hu ih =>
    rw [hu.bytes?_eq]
    exact ih hstored
  | call h call ih =>
    cases hstored with
    | last hfree hstored => exact hstored
    | earlier hstored =>
      rw [Call.bytes?_after (ih hstored)]
      exact ih hstored

/-- Nothing is stored twice. -/
theorem StoredAt.number_unique {d : Digest} {n m : Nat} {u v : Store} (hn : StoredAt past d n u)
    (hm : StoredAt past d m v) (h : Run s past t) : n = m := by
  induction h with
  | start => cases hn
  | elapse h hu ih => exact ih hn hm
  | call h call ih =>
    -- if one of the two calls is the last one, so is the other
    cases hn with
    | last hfree =>
      cases hm with
      | last => rfl
      | earlier hm => exact absurd hfree (hm.bytes?_ne_none h)
    | earlier hn =>
      cases hm with
      | last hfree => exact absurd hfree (hn.bytes?_ne_none h)
      | earlier hm => exact ih hn hm

/-- The entry was stored under the digest by the call with the number, when each of its operands was
    visible and had been stored by an earlier call. -/
def StoredAfterOperands (past : List (Store × Call)) (d : Digest) (entry : Entry) : Prop :=
  ∃ n u, StoredAt past d n u ∧ ∀ o ∈ entry.operands,
    (∃ b, u.fetch? o = .ok (some b)) ∧ ∃ m v, m < n ∧ StoredAt past o m v

theorem StoredAfterOperands.earlier {d : Digest} {entry : Entry}
    (h : StoredAfterOperands past d entry) (p : Store × Call) :
    StoredAfterOperands (p :: past) d entry := by
  obtain ⟨n, u, hstored, hoperands⟩ := h
  refine ⟨n, u, .earlier hstored, fun o ho => ?_⟩
  obtain ⟨hvisible, m, v, hlt, hm⟩ := hoperands o ho
  exact ⟨hvisible, m, v, hlt, .earlier hm⟩

/-- What was not there before a call came with it, so its entry was accepted. -/
theorem storedAfterOperands_of_call {call : Call} {d : Digest} {b : Bytes}
    (hstored : ∀ o c, t.bytes? o = .ok (some c) → ∃ n u, StoredAt past o n u)
    (hfree : t.bytes? d = .ok none) (hb : (call.after t).bytes? d = .ok (some b)) :
    ∃ entry, Entry.decode b = .ok entry ∧ StoredAfterOperands ((t, call) :: past) d entry := by
  rcases call.after_cases t with ⟨-, hbytes⟩ | ⟨entry, hentry, hreceives⟩
  · rw [hbytes, hfree] at hb
    cases hb
  · have hstores : call.Stores t entry := (hentry entry).2 rfl
    have hthere : (call.after t).bytes? d ≠ .ok none := by simp [hb]
    rw [hreceives d, hfree] at hb
    split_ifs at hb
    · obtain rfl : entry.encode = b := Option.some.inj (Except.ok.inj hb)
      refine ⟨entry, hstores.decode_encode, past.length, t, .last hfree hthere, fun o ho => ?_⟩
      obtain ⟨c, hc⟩ := hstores.exists_fetch? o ho
      obtain ⟨m, v, hm⟩ := hstored o c (Store.fetch?_eq_some_iff.1 hc).2
      exact ⟨⟨c, hc⟩, m, v, hm.lt_length, .earlier hm⟩
    · cases hb

/-- All that a run leaves is entries, each stored after its operands. -/
theorem storedAfterOperands_of_run (hempty : s.IsEmpty) (h : Run s past t) {d : Digest} {b : Bytes}
    (hb : t.bytes? d = .ok (some b)) :
    ∃ entry, Entry.decode b = .ok entry ∧ StoredAfterOperands past d entry := by
  induction h generalizing d b with
  | start =>
    rw [hempty d] at hb
    cases hb
  | elapse h hu ih => exact ih (hu.bytes?_eq ▸ hb)
  | @call past t h call ih =>
    have hstored (o : Digest) (c : Bytes) (hc : t.bytes? o = .ok (some c)) :
        ∃ n u, StoredAt past o n u := by
      obtain ⟨-, -, n, u, hn, -⟩ := ih hc
      exact ⟨n, u, hn⟩
    obtain ⟨_ | c, hbefore⟩ := (holds_of_run hempty h).exists_bytes?_eq d
    · exact storedAfterOperands_of_call hstored hbefore hb
    · rw [Call.bytes?_after (by simp [hbefore]), hbefore] at hb
      obtain rfl := Option.some.inj (Except.ok.inj hb)
      obtain ⟨entry, hdecode, hentry⟩ := ih hbefore
      exact ⟨entry, hdecode, hentry.earlier _⟩

/-! ## References -/

/-- The entry stands under the digest. -/
def Stands (t : Store) (d : Digest) (entry : Entry) : Prop :=
  ∃ b, t.bytes? d = .ok (some b) ∧ Entry.decode b = .ok entry

/-- The entry under the one digest has the other one for an operand. -/
def Names (t : Store) (d o : Digest) : Prop :=
  ∃ entry, Stands t d entry ∧ o ∈ entry.operands

/-- References lead to smaller and smaller numbers. -/
theorem exists_lt_of_transGen (hempty : s.IsEmpty) (h : Run s past t) {d o : Digest}
    (hnames : Relation.TransGen (Names t) d o) :
    ∃ n u m v, StoredAt past d n u ∧ StoredAt past o m v ∧ m < n := by
  have hstep {d o : Digest} (hnames : Names t d o) :
      ∃ n u m v, StoredAt past d n u ∧ StoredAt past o m v ∧ m < n := by
    obtain ⟨entry, ⟨b, hb, hdecode⟩, ho⟩ := hnames
    obtain ⟨found, hfound, n, u, hn, hoperands⟩ := storedAfterOperands_of_run hempty h hb
    obtain rfl : found = entry := Except.ok.inj (hfound.symm.trans hdecode)
    obtain ⟨-, m, v, hlt, hm⟩ := hoperands o ho
    exact ⟨n, u, m, v, hn, hm, hlt⟩
  -- the entry between two references has one number, which joins them
  induction hnames with
  | single hnames => exact hstep hnames
  | tail _ hnames ih =>
    obtain ⟨n, u, m, v, hn, hm, hlt⟩ := ih
    obtain ⟨k, w, l, x, hk, hl, hlt'⟩ := hstep hnames
    have hkm := hk.number_unique hm h
    exact ⟨n, u, l, x, hn, hl, by omega⟩

/-- Whatever is asked of a store that was empty, all that it holds is entries, each of which was
    stored by exactly one call, strictly after all its operands, which were visible then and are
    still there. So no entry leads back to itself. Whoever stores an entry, be it again, finds
    something under its digest ever after, and its operands visible. -/
theorem operands_stored_before (hempty : s.IsEmpty) (h : Run s past t) :
    (∀ d b, t.bytes? d = .ok (some b) → ∃ entry, Entry.decode b = .ok entry) ∧
    (∀ d entry, Stands t d entry → StoredAfterOperands past d entry ∧
      ∀ o ∈ entry.operands, ∃ operand, Stands t o operand) ∧
    (∀ d n m u v, StoredAt past d n u → StoredAt past d m v → n = m) ∧
    (∀ d, ¬Relation.TransGen (Names t) d d) ∧
    ∀ u call entry, (u, call) ∈ past → call.Stores u entry →
      (∃ found, Stands t entry.digest found) ∧
        ∀ o ∈ entry.operands, ∃ b, u.fetch? o = .ok (some b) := by
  have hentries {d : Digest} {b : Bytes} (hb : t.bytes? d = .ok (some b)) :
      ∃ entry, Stands t d entry := by
    obtain ⟨entry, hdecode, -⟩ := storedAfterOperands_of_run hempty h hb
    exact ⟨entry, b, hb, hdecode⟩
  have hthere {d : Digest} (hd : t.bytes? d ≠ .ok none) : ∃ entry, Stands t d entry := by
    rcases (holds_of_run hempty h).sound d with hnone | ⟨_, _, _, hsome⟩
    · exact absurd hnone hd
    · exact hentries hsome
  refine ⟨fun d b hb => ?_, fun d entry ⟨b, hb, hdecode⟩ => ?_,
    fun d n m u v hn hm => hn.number_unique hm h, fun d hcycle => ?_,
    fun u call entry hmem hstores => ⟨?_, hstores.exists_fetch?⟩⟩
  · obtain ⟨entry, hdecode, -⟩ := storedAfterOperands_of_run hempty h hb
    exact ⟨entry, hdecode⟩
  · obtain ⟨found, hfound, hafter⟩ := storedAfterOperands_of_run hempty h hb
    obtain rfl : found = entry := Except.ok.inj (hfound.symm.trans hdecode)
    refine ⟨hafter, fun o ho => ?_⟩
    obtain ⟨n, u, -, hoperands⟩ := hafter
    obtain ⟨-, m, v, -, hm⟩ := hoperands o ho
    exact hthere (hm.bytes?_ne_none h)
  -- a cycle would lead from a number to a smaller one of the same digest
  · obtain ⟨n, u, m, v, hn, hm, hlt⟩ := exists_lt_of_transGen hempty h hcycle
    have hnm := hn.number_unique hm h
    omega
  · exact hthere ((holds_of_run hempty h).complete entry ⟨_, hmem, hstores⟩)

/-- In a store that takes five nanoseconds to settle, a program that names another one is stored
    after these, when the other one is visible. -/
theorem operands_stored_before_settling :
    (∃ b, Store.fetch? { Call.after (Store.inMemory (some 5) .empty 0)
        ⟨⟨3, ⟨0, 0⟩⟩, .create "x" []⟩ with now := 5 } (Entry.digest ⟨"x", .symbol "x", []⟩) =
      .ok (some b)) ∧
    ¬Relation.TransGen (Names (Call.after { Call.after (Store.inMemory (some 5) .empty 0)
        ⟨⟨3, ⟨0, 0⟩⟩, .create "x" []⟩ with now := 5 }
        ⟨⟨3, ⟨0, 0⟩⟩, .create "(f x)" [Entry.digest ⟨"x", .symbol "x", []⟩]⟩))
      (Entry.digest ⟨"x", .symbol "x", []⟩) (Entry.digest ⟨"x", .symbol "x", []⟩) := by
  let registry : Registry := ⟨3, ⟨0, 0⟩⟩
  let x : Digest := Entry.digest ⟨"x", .symbol "x", []⟩
  let s : Store := Store.inMemory (some 5) .empty 0
  let first : Call := ⟨registry, .create "x" []⟩
  let u : Store := { first.after s with now := 5 }
  let second : Call := ⟨registry, .create "(f x)" [x]⟩
  have hwait : Elapses (first.after s) u := ⟨rfl, by decide +kernel, rfl⟩
  have hrun : Run s [(u, second), (s, first)] (second.after u) :=
    ((Run.start.call first).elapse hwait).call second
  have hserved : (outcome (registry.create "(f x)" [x]) u).1 =
      some (.ok (Entry.digest ⟨"(f x)", .apply (.symbol "f") [.symbol "x"], [x]⟩)) := by
    decide +kernel
  have hstores : second.Stores u ⟨"(f x)", .apply (.symbol "f") [.symbol "x"], [x]⟩ :=
    .create (by decide +kernel) fun rejection h => by simp [hserved] at h
  obtain ⟨-, -, -, hacyclic, hvisible⟩ :=
    operands_stored_before (Store.isEmpty_inMemory _ _ _) hrun
  exact ⟨(hvisible u second _ List.mem_cons_self hstores).2 x List.mem_cons_self, hacyclic x⟩

end Formulary.Registry
