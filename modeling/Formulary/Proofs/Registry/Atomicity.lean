import Formulary.Proofs.Registry.Operands
import Formulary.Proofs.Store.Growing
import Formulary.Proofs.Store.Timeline

/-!
# All or nothing

A call on a store that nobody disturbs stores one entry or leaves all as it was. What was stored
stays, byte for byte, whatever is called for (`Atomic`). Whether a program is stored is told by its
check, then by its operands, the first of which that cannot be seen is named, and last by the clock
(`Decided`).

* `atomic_in_history`: so it is at every moment of a run that nobody disturbs.
-/

namespace Formulary.Registry

open Store (outcome outcome_bind_of_error outcome_bind_of_none outcome_bind_of_ok outcome_liftM
  Grows Keeps Looked Passes Receives)

variable {registry : Registry} {source : String} {operands : List Digest} {s t : Store}

/-! ## Operands -/

/-- There are bytes under the digest that may be seen. -/
def Visible (s : Store) (d : Digest) : Prop :=
  ∃ b, s.fetch? d = .ok (some b)

/-- In an undisturbed store what cannot be seen is just not there. -/
theorem fetch?_eq_none (hs : s.Undisturbed) {d : Digest} (hd : ¬Visible s d) :
    s.fetch? d = .ok none := by
  obtain ⟨found, hfound⟩ := hs.exists_bytes?_eq d
  rw [Visible, Store.fetch?] at hd
  rw [Store.fetch?]
  split_ifs at hd ⊢
  · cases found with
    | none => exact hfound
    | some b => exact absurd ⟨b, hfound⟩ hd
  · rfl

/-- The first operand that cannot be seen is the one that is told of. -/
theorem operandsVerdict_append_cons (hs : s.Undisturbed) {before : List Digest} {o : Digest}
    (hbefore : ∀ d ∈ before, Visible s d) (ho : ¬Visible s o) (after : List Digest) :
    operandsVerdict s (before ++ o :: after) = .error (.missingOperand o) := by
  induction before with
  | nil => rw [List.nil_append, operandsVerdict, fetch?_eq_none hs ho]
  | cons d ds ih =>
    obtain ⟨⟨b, hb⟩, hds⟩ := List.forall_mem_cons.1 hbefore
    rw [List.cons_append, operandsVerdict, hb]
    exact ih hds

/-! ## Storing -/

/-- An entry whose operands can be seen is kept. -/
theorem keeps_storeEntry (hs : s.Undisturbed) (entry : Entry)
    (h : operandsVerdict s entry.operands = .ok ()) : Keeps (storeEntry entry) entry s := by
  obtain ⟨u, hu, hoperands⟩ := outcome_checkOperands entry.operands s
  rw [h] at hoperands
  have hbytes : u.bytes? entry.digest = s.bytes? entry.digest := congrFun hu.bytes?_eq _
  have hput : outcome (liftM (Store.put entry).run : Request _) u =
      ((outcome (Store.put entry) u).1.map .ok, (outcome (Store.put entry) u).2) :=
    outcome_liftM _ _
  -- errors of the store are results here, but there is none
  cases (hs.of_passes hu.toPasses).keeps_put entry with
  | @held t hd ht h =>
    rw [h] at hput
    have hlooked := (hu.trans ht).trans (.of_log t (t.log ++ [.stored entry.digest] ++
      [.done entry.digest entry.operands.length]))
    exact .held (hbytes ▸ hd) hlooked
      ((outcome_bind_of_ok hoperands _).trans (outcome_bind_of_ok hput _))
  | @received t hd hgrows hclock h =>
    rw [h] at hput
    have hgrown := (hgrows.of_looked_before hu).log_after (t.log ++ [.stored entry.digest] ++
      [.done entry.digest entry.operands.length])
    exact .received (hbytes ▸ hd) hgrown (hu.settlesInTime_iff.1 hclock)
      ((outcome_bind_of_ok hoperands _).trans (outcome_bind_of_ok hput _))
  | brokenOff hd hgrows hclock h =>
    rw [h] at hput
    exact .brokenOff (hbytes ▸ hd) (hgrows.of_looked_before hu) (mt hu.settlesInTime_iff.2 hclock)
      ((outcome_bind_of_ok hoperands _).trans (outcome_bind_of_none hput _))

/-! ## Programs -/

/-- After its check a program is an entry to be stored, in a store that has logged the check. -/
theorem outcome_create_of_verdict {tree : Expr} (h : registry.verdict source = .ok tree)
    (operands : List Digest) (s : Store) : ∃ log,
    outcome (registry.create source operands) s =
      outcome (storeEntry ⟨source, tree, operands⟩) { s with log } := by
  obtain ⟨log, hcheck⟩ := outcome_check registry source s
  rw [h] at hcheck
  exact ⟨log, outcome_bind_of_ok hcheck _⟩

theorem outcome_create_of_operands {tree : Expr} {rejection : Rejection}
    (h : registry.verdict source = .ok tree) (hoperands : operandsVerdict s operands =
      .error rejection) :
    ∃ t, Looked s t ∧
      outcome (registry.create source operands) s = (some (.error rejection), t) := by
  obtain ⟨log, hrest⟩ := outcome_create_of_verdict h operands s
  rw [← operandsVerdict_of_looked (.of_log s log)] at hoperands
  obtain ⟨t, ht, hreject⟩ :=
    outcome_storeEntry_of_error ⟨source, tree, operands⟩ hoperands
  exact ⟨t, (Looked.of_log s log).trans ht, hrest.trans hreject⟩

/-- A program that is accepted, and whose operands can be seen, is kept. -/
theorem keeps_create (hs : s.Undisturbed) {tree : Expr} (h : registry.verdict source = .ok tree)
    (hvisible : ∀ o ∈ operands, Visible s o) :
    Keeps (registry.create source operands) ⟨source, tree, operands⟩ s := by
  obtain ⟨log, hrest⟩ := outcome_create_of_verdict h operands s
  have hlooked : Looked s { s with log } := .of_log s log
  have hoperands := operandsVerdict_eq_ok_iff.2 hvisible
  rw [← operandsVerdict_of_looked hlooked] at hoperands
  have hkeeps := keeps_storeEntry (hs.of_passes hlooked.toPasses) ⟨source, tree, operands⟩ hoperands
  exact hkeeps.of_looked_before hlooked hrest

/-- A program is rejected, for its source or its operands, and nothing is stored; or it is accepted
    and kept. -/
theorem create_cases (hs : s.Undisturbed) (registry : Registry) (source : String)
    (operands : List Digest) :
    (∃ rejection t, Looked s t ∧
      outcome (registry.create source operands) s = (some (.error rejection), t)) ∨
    ∃ tree, registry.verdict source = .ok tree ∧ (∀ o ∈ operands, Visible s o) ∧
      Keeps (registry.create source operands) ⟨source, tree, operands⟩ s := by
  rcases hverdict : registry.verdict source with rejection | tree
  · obtain ⟨log, h⟩ := outcome_create_of_error hverdict operands s
    exact .inl ⟨rejection, _, .of_log s log, h⟩
  rcases hoperands : operandsVerdict s operands with rejection | _
  · obtain ⟨t, ht, h⟩ := outcome_create_of_operands hverdict hoperands
    exact .inl ⟨rejection, t, ht, h⟩
  · have hvisible := operandsVerdict_eq_ok_iff.1 hoperands
    exact .inr ⟨tree, rfl, hvisible, keeps_create hs hverdict hvisible⟩

theorem verdict_error_cases {rejection : Rejection}
    (h : registry.verdict source = .error rejection) :
    (∃ error, rejection = .unparsable error) ∨ ∃ violation, rejection = .invalid violation := by
  rw [verdict] at h
  split at h
  case h_1 error _ => exact .inl ⟨error, (Except.error.inj h).symm⟩
  case h_2 tree _ =>
    split at h
    case h_1 violation _ => exact .inr ⟨violation, (Except.error.inj h).symm⟩
    case h_2 => cases h

/-! ## Calls -/

/-- A request to store an entry is rejected after no more than looks, or it keeps the entry of its
    call. -/
theorem Call.storing_cases (hs : s.Undisturbed) {call : Call} {x : Request Digest}
    (hx : call.storing? = some x) :
    (∃ rejection t, Looked s t ∧ outcome x s = (some (.error rejection), t)) ∨
    ∃ entry, call.Stores s entry ∧ Keeps x entry s := by
  have hserved {y : Request Digest} {entry : Entry} (h : Keeps y entry s) (rejection : Rejection) :
      (outcome y s).1 ≠ some (.error rejection) := by
    rcases h.outcome_fst with ⟨-, h⟩ | ⟨-, h⟩ <;> simp [h]
  obtain ⟨registry, operation⟩ := call
  cases operation with
  | create source operands =>
    obtain rfl := Option.some.inj hx
    exact (create_cases hs registry source operands).imp id fun ⟨tree, hverdict, _, hkeeps⟩ =>
      ⟨_, .create hverdict (hserved hkeeps), hkeeps⟩
  | createTree tree operands =>
    obtain rfl := Option.some.inj hx
    rcases outcome_createTree_cases_of_checks registry tree operands s with
      ⟨rejection, log, h⟩ | ⟨hvalid, h⟩
    · exact .inl ⟨rejection, _, .of_log s log, h⟩
    -- a tree that passes the checks is treated as its text, which reads as the tree
    · rw [h]
      refine (create_cases hs registry tree.render operands).imp id
        fun ⟨parsed, hverdict, _, hkeeps⟩ => ?_
      obtain rfl := eq_of_verdict_render hvalid hverdict
      have hkept : Keeps (registry.createTree parsed operands) _ s :=
        hkeeps.of_looked_before (.refl s) h
      exact ⟨_, .createTree (hserved hkept), hkept⟩
  | check | accepts | fetch | await | digests => cases hx

/-- A call leaves an undisturbed store as one. -/
theorem Call.undisturbed_after (hs : s.Undisturbed) (call : Call) :
    (call.after s).Undisturbed := by
  rcases hx : call.storing? with _ | x
  · exact hs.of_passes (Call.passes_after hx s)
  · rw [Call.after_eq hx]
    rcases Call.storing_cases hs hx with ⟨rejection, t, ht, h⟩ | ⟨entry, -, hkeeps⟩
    · rw [h]
      exact hs.of_passes ht.toPasses
    · exact hkeeps.undisturbed hs

/-! ## What a call may change -/

/-- The call stores one entry or leaves all as it was. -/
structure Atomic (s : Store) (call : Call) : Prop where
  /-- What was stored stays, byte for byte. -/
  keeps : ∀ d b, s.bytes? d = .ok (some b) → (call.after s).bytes? d = .ok (some b)
  /-- A call that is to store nothing changes nothing. -/
  looks : call.storing? = none → Passes s (call.after s)
  /-- Nor does one that is rejected. -/
  rejects : ∀ x rejection, call.storing? = some x →
    (outcome x s).1 = some (.error rejection) → Passes s (call.after s)
  /-- Otherwise there is, at most, the encoding of its entry more than before, under the digest that
      is given. -/
  stores : ∀ x d, call.storing? = some x → (outcome x s).1 = some (.ok d) →
    ∃ entry, call.Stores s entry ∧ entry.digest = d ∧
      Receives s d entry.encode (call.after s) ∧
      (s.bytes? d ≠ .ok none → Passes s (call.after s))

theorem atomic (hs : s.Undisturbed) (call : Call) : Atomic s call := by
  refine ⟨fun d b hd => ?_, fun h => Call.passes_after h s, fun x rejection hx hreject => ?_,
    fun x d hx hok => ?_⟩
  · rw [Call.bytes?_after (by simp [hd]), hd]
  · rw [Call.after_eq hx]
    rcases Call.storing_cases hs hx with ⟨_, t, ht, h⟩ | ⟨entry, -, hkeeps⟩
    · rw [h]
      exact ht.toPasses
    · rcases hkeeps.outcome_fst with ⟨-, h⟩ | ⟨-, h⟩ <;> simp [h] at hreject
  · rw [Call.after_eq hx]
    rcases Call.storing_cases hs hx with ⟨_, _, -, h⟩ | ⟨entry, hentry, hkeeps⟩
    · simp [h] at hok
    · obtain rfl : entry.digest = d := by
        rcases hkeeps.outcome_fst with ⟨-, h⟩ | ⟨-, h⟩
        · simpa [h] using hok
        · simp [h] at hok
      exact ⟨entry, hentry, rfl, hkeeps.receives, hkeeps.passes_of_held⟩

/-! ## Whether a program is stored -/

/-- Whether a program is stored is told by its check, its operands and the clock, and the first that
    is against it is what is told. -/
structure Decided (registry : Registry) (source : String) (operands : List Digest) (s : Store) :
    Prop where
  /-- It is stored if its check succeeds and all operands can be seen, unless the clock runs out on
      something new. -/
  succeeds_iff : (∃ d, (outcome (registry.create source operands) s).1 = some (.ok d)) ↔
    ∃ tree, (outcome (registry.check source) s).1 = some (.ok tree) ∧
      (∀ o ∈ operands, Visible s o) ∧
      (s.SettlesInTime ∨ s.bytes? (Entry.digest ⟨source, tree, operands⟩) ≠ .ok none)
  /-- If its check fails that is told, whatever the operands are. -/
  rejects_source : ∀ rejection, (outcome (registry.check source) s).1 = some (.error rejection) →
    ((∃ error, rejection = .unparsable error) ∨ ∃ violation, rejection = .invalid violation) ∧
      (outcome (registry.create source operands) s).1 = some (.error rejection)
  /-- If its check succeeds the first operand that cannot be seen is told. -/
  rejects_operand : ∀ tree before o after,
    (outcome (registry.check source) s).1 = some (.ok tree) → operands = before ++ o :: after →
    (∀ d ∈ before, Visible s d) → ¬Visible s o →
    (outcome (registry.create source operands) s).1 = some (.error (.missingOperand o))
  /-- If both are well nothing is told when the clock runs out. -/
  breaksOff : ∀ tree, (outcome (registry.check source) s).1 = some (.ok tree) →
    (∀ o ∈ operands, Visible s o) → ¬s.SettlesInTime →
    s.bytes? (Entry.digest ⟨source, tree, operands⟩) = .ok none →
    (outcome (registry.create source operands) s).1 = none

theorem decided (hs : s.Undisturbed) (registry : Registry) (source : String)
    (operands : List Digest) : Decided registry source operands s := by
  have hcheck {r : Except Rejection Expr} :
      (outcome (registry.check source) s).1 = some r ↔ registry.verdict source = r := by
    obtain ⟨log, h⟩ := outcome_check registry source s
    rw [h, Option.some.injEq]
  constructor
  case succeeds_iff =>
    constructor
    · rintro ⟨d, hd⟩
      rcases create_cases hs registry source operands with
        ⟨rejection, _, -, h⟩ | ⟨tree, hverdict, hvisible, hkeeps⟩
      · simp [h] at hd
      · rcases hkeeps.outcome_fst with ⟨hclock, -⟩ | ⟨-, h⟩
        · exact ⟨tree, hcheck.2 hverdict, hvisible, hclock⟩
        · simp [h] at hd
    · rintro ⟨tree, htree, hvisible, hclock⟩
      rcases (keeps_create hs (hcheck.1 htree) hvisible).outcome_fst with ⟨-, h⟩ | ⟨hnot, -⟩
      · exact ⟨_, h⟩
      · exact absurd hclock hnot
  case rejects_source =>
    intro rejection hreject
    obtain ⟨log, h⟩ := outcome_create_of_error (hcheck.1 hreject) operands s
    exact ⟨verdict_error_cases (hcheck.1 hreject), congrArg Prod.fst h⟩
  case rejects_operand =>
    rintro tree before o after htree rfl hbefore ho
    obtain ⟨t, -, h⟩ := outcome_create_of_operands (hcheck.1 htree)
      (operandsVerdict_append_cons hs hbefore ho after)
    exact congrArg Prod.fst h
  case breaksOff =>
    intro tree htree hvisible hclock hnone
    rcases (keeps_create hs (hcheck.1 htree) hvisible).outcome_fst with ⟨hor, -⟩ | ⟨-, h⟩
    · exact absurd hnone (hor.resolve_left hclock)
    · exact h

/-! ## Runs -/

/-- A run from a store to another one that nobody else disturbs, with the calls so far, last one
    first, each with the store that it was made on. -/
inductive History (s : Store) : List (Store × Call) → Store → Prop
  | start : History s [] s
  | age {past : List (Store × Call)} {t u : Store} (h : History s past t) (hu : Store.Ages t u) :
      History s past u
  | call {past : List (Store × Call)} {t : Store} (h : History s past t) (call : Call) :
      History s ((t, call) :: past) (call.after t)

theorem History.undisturbed {past : List (Store × Call)} (hs : s.Undisturbed)
    (h : History s past t) : t.Undisturbed := by
  induction h with
  | start => exact hs
  | age h hu ih => exact hu.undisturbed
  | call h call ih => exact Call.undisturbed_after ih call

/-- What was stored at the start of a run is there at the end. -/
theorem History.bytes?_eq {past : List (Store × Call)} (h : History s past t) {d : Digest}
    {b : Bytes} (hd : s.bytes? d = .ok (some b)) : t.bytes? d = .ok (some b) := by
  induction h with
  | start => exact hd
  | age h hu ih => rw [hu.bytes?_eq, ih]
  | call h call ih => rw [Call.bytes?_after (by simp [ih]), ih]

/-- Whatever is asked of a store that nobody else disturbs, at every moment of it what was stored
    before is there, each call stores one entry or leaves all as it is, and whether a program is
    stored is told by its check, its operands and the clock. -/
theorem atomic_in_history {past : List (Store × Call)} (hs : s.Undisturbed)
    (h : History s past t) :
    (∀ d b, s.bytes? d = .ok (some b) → t.bytes? d = .ok (some b)) ∧
    (∀ call, Atomic t call) ∧
    ∀ registry source operands, Decided registry source operands t :=
  ⟨fun _ _ hd => h.bytes?_eq hd, fun call => atomic (h.undisturbed hs) call,
    fun registry source operands => decided (h.undisturbed hs) registry source operands⟩

/-- In a store that takes five nanoseconds to settle a program is not stored against one that was
    stored just before and cannot be seen yet, and what is in the store stays as it is. -/
theorem atomic_in_history_settling :
    let s : Store := .inMemory (some 5) .empty 0
    let registry : Registry := ⟨3, ⟨0, 0⟩⟩
    let x : Digest := Entry.digest ⟨"x", .symbol "x", []⟩
    let t := Call.after s ⟨registry, .create "x" []⟩
    let call : Call := ⟨registry, .create "(f x)" [x]⟩
    t.bytes? x = .ok (some (Entry.encode ⟨"x", .symbol "x", []⟩)) ∧
    (outcome (registry.create "(f x)" [x]) t).1 = some (.error (.missingOperand x)) ∧
      (call.after t).bytes? = t.bytes? := by
  intro s registry x t call
  have hs : s.Undisturbed := .memory rfl List.nodup_nil
  obtain ⟨-, hfirst, -⟩ := atomic_in_history hs .start
  obtain ⟨-, hatomic, hdecided⟩ :=
    atomic_in_history hs (History.start.call ⟨registry, .create "x" []⟩)
  -- the first program is stored
  have hx : (outcome (registry.create "x" []) s).1 = some (.ok x) := by decide +kernel
  obtain ⟨entry, hentry, -, hreceives, -⟩ := (hfirst ⟨registry, .create "x" []⟩).stores _ x rfl hx
  have hbytes : t.bytes? x = .ok (some (Entry.encode ⟨"x", .symbol "x", []⟩)) := by
    cases hentry with
    | @create _ _ _ tree hverdict =>
      obtain rfl : Expr.symbol "x" = tree := by
        have hverdict' : registry.verdict "x" = .ok (.symbol "x") := by decide +kernel
        exact Except.ok.inj (hverdict'.symm.trans hverdict)
      exact (hreceives x).trans (if_pos ⟨rfl, rfl⟩)
  -- and cannot be seen before the delay is over
  have hmissing : ¬Visible t x := by
    rintro ⟨b, hb⟩
    have hvisible := (Store.fetch?_eq_some_iff.1 hb).1
    exact absurd hvisible (by decide +kernel)
  have htree : (outcome (registry.check "(f x)") t).1 =
      some (.ok (.apply (.symbol "f") [.symbol "x"])) := by decide +kernel
  have hreject := (hdecided registry "(f x)" [x]).rejects_operand _ [] x [] htree rfl nofun hmissing
  exact ⟨hbytes, hreject, ((hatomic call).rejects _ _ rfl hreject).bytes?_eq⟩

/-- A delay that ends after the clock makes a program that is accepted, and needs nothing, break
    off. -/
theorem not_stored_past_clock_end :
    let settings : Settings :=
      ⟨32, .memory, "", some (.secs 18446744073709551615), ⟨.millis 50, .secs 5⟩, "info"⟩
    let registry : Registry := .ofSettings settings
    let s : Store := .inMemory settings.settleDelay .empty 0
    settings.validate = .ok () ∧ (outcome (registry.check "x") s).1 = some (.ok (.symbol "x")) ∧
      (outcome (registry.create "x" []) s).1 = none := by
  decide +kernel

end Formulary.Registry
