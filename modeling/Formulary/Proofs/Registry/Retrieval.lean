import Formulary.Proofs.Registry.Outcomes
import Formulary.Proofs.Store.Looking

/-!
# What is retrieved can be trusted

A store may hold anything under any digest. Three checks stand between its bytes and whoever asks
for an entry: the bytes must have the digest, they must be what the entry is encoded as, and the
text of the entry must still read as its tree. Whatever passes them is `Genuine`, and they are made
alike whether one fetches an entry or waits for it (`outcome_fetch`, `outcome_await_cases`).

* `genuine_of_retrieved`: all that is retrieved from a store is genuine, and the same from all.
-/

namespace Formulary.Registry

open Store (outcome outcome_adapt outcome_bind outcome_bind_of_error outcome_bind_of_none
  outcome_bind_of_ok lookVerdict lookVerdict_eq_ok_iff clockEnd)

/-- The entry has the digest, and its text is a valid program that reads as its tree. -/
structure Genuine (d : Digest) (entry : Entry) : Prop where
  digest_eq : entry.digest = d
  parse_eq : Expr.parse Expr.greatestMaxDepth entry.operator = .ok entry.parsed
  validate_eq : entry.parsed.validate = .ok ()

/-! ## The checks -/

theorem verify_eq_ok_iff {maxDepth : Nat} {entry : Entry} :
    entry.verify maxDepth = .ok () ↔
      Expr.parse maxDepth entry.operator = .ok entry.parsed ∧ entry.parsed.validate = .ok () := by
  rw [Entry.verify]
  rcases Expr.parse maxDepth entry.operator with error | tree
  · simp
  · rcases hvalid : tree.validate with violation | _
    · grind
    · grind

/-- What an entry that was read is taken for. -/
def trust (d : Digest) (entry : Entry) : Except Rejection Entry :=
  match entry.verify Expr.greatestMaxDepth with
  | .ok () => .ok entry
  | .error mismatch => .error (.store (.doubtful d (.mismatch mismatch)))

/-- What visible bytes, if there are any, are taken for under a digest. -/
def fetchVerdict (d : Digest) (found : Except Store.Error (Option Bytes)) :
    Except Rejection Entry := do
  trust d (← (lookVerdict d found).mapError .store)

theorem outcome_verified (d : Digest) (entry : Entry) (s : Store) :
    ∃ log, outcome (verified d entry) s = (some (trust d entry), { s with log }) := by
  rw [verified, trust]
  rcases entry.verify Expr.greatestMaxDepth with mismatch | _
  · exact ⟨_, rfl⟩
  · exact ⟨s.log, rfl⟩

/-- What the store gives is checked further. -/
theorem outcome_onStore_verified {action : Store.Action Entry} {d : Digest} {s t : Store}
    {found : Except Store.Error (Option Bytes)}
    (h : outcome action s = (some (lookVerdict d found), t)) :
    ∃ log, outcome (onStore action >>= verified d) s =
      (some (fetchVerdict d found), { t with log }) := by
  have hserve : outcome (onStore action) s =
      (some ((lookVerdict d found).mapError .store), t) := by
    rw [onStore, outcome_adapt, h]
    rfl
  rw [fetchVerdict]
  generalize lookVerdict d found = look at hserve ⊢
  rcases look with error | entry
  · exact ⟨t.log, outcome_bind_of_error hserve _⟩
  · obtain ⟨log, hverified⟩ := outcome_verified d entry t
    exact ⟨log, (outcome_bind_of_ok hserve _).trans hverified⟩

theorem outcome_fetch (d : Digest) (s : Store) : ∃ log,
    outcome (fetch d) s = (some (fetchVerdict d (s.fetch? d)), { s.lookedAt d with log }) := by
  obtain ⟨_, h⟩ := Store.outcome_fetch d s
  obtain ⟨log, hserve⟩ := outcome_onStore_verified h
  exact ⟨log, hserve⟩

/-- Whoever waits is left without an answer exactly if the waiting breaks off in the store. -/
theorem outcome_await_eq_none_iff {registry : Registry} {d : Digest} {s : Store} :
    (outcome (registry.await d) s).1 = none ↔
      (outcome (Store.await d registry.patience) s).1 = none := by
  constructor
  · intro hnone
    rcases Store.outcome_await_cases d registry.patience s with h | ⟨now, -, h⟩
    · exact h
    · obtain ⟨log, hserve⟩ := outcome_onStore_verified (Prod.ext h rfl)
      rw [await, hserve] at hnone
      cases hnone
  · intro h
    have hserve : outcome (onStore (Store.await d registry.patience)) s =
        (none, (outcome (Store.await d registry.patience) s).2) := by
      rw [onStore, outcome_adapt, h]
      rfl
    exact congrArg Prod.fst (outcome_bind_of_none hserve _)

/-- Waiting gives what fetching at some moment from now on gives, unless it breaks off. -/
theorem outcome_await_cases (registry : Registry) (d : Digest) (s : Store) :
    (outcome (registry.await d) s).1 = none ∨
    ∃ now, s.now ≤ now ∧
      (outcome (registry.await d) s).1 = some (fetchVerdict d ((s.atTime now).fetch? d)) := by
  rcases Store.outcome_await_cases d registry.patience s with h | ⟨now, hle, h⟩
  · exact .inl (outcome_await_eq_none_iff.2 h)
  -- the last look is checked like any other
  · obtain ⟨log, hserve⟩ := outcome_onStore_verified (Prod.ext h rfl)
    exact .inr ⟨now, hle, congrArg Prod.fst hserve⟩

/-- What is taken for an entry is genuine, and its encoding. -/
theorem fetchVerdict_eq_ok_iff {d : Digest} {found : Except Store.Error (Option Bytes)}
    {entry : Entry} :
    fetchVerdict d found = .ok entry ↔ found = .ok (some entry.encode) ∧ Genuine d entry := by
  have htrust (e : Entry) : trust d e = .ok entry ↔
      e = entry ∧ e.verify Expr.greatestMaxDepth = .ok () := by
    rw [trust]
    rcases e.verify Expr.greatestMaxDepth with mismatch | _ <;> simp
  have hlook (e : Entry) : (lookVerdict d found).mapError Rejection.store = .ok e ↔
      lookVerdict d found = .ok e := by
    rcases lookVerdict d found with error | e <;> simp [Except.mapError]
  rw [fetchVerdict, bind_eq_ok_iff]
  simp only [hlook, htrust, verify_eq_ok_iff, lookVerdict_eq_ok_iff]
  constructor
  · rintro ⟨_, ⟨hfound, hdigest, -⟩, rfl, hparse, hvalid⟩
    exact ⟨hfound, hdigest, hparse, hvalid⟩
  · rintro ⟨hfound, hdigest, hparse, hvalid⟩
    -- a text that reads as the tree bounds its depth, so the encoding is not too deep to be read
    obtain ⟨-, -, hdepth⟩ := Expr.parse_eq_ok_iff.1 hparse
    exact ⟨entry, ⟨hfound, hdigest, Entry.decode_encode_of_formDepth_le
      (hdepth.trans (Nat.min_le_right _ _))⟩, rfl, hparse, hvalid⟩

/-! ## Retrieving -/

/-- The store gives the entry to someone who fetches it or waits for it. -/
inductive Retrieved (s : Store) (d : Digest) (entry : Entry) : Prop
  | fetch (h : (outcome (fetch d) s).1 = some (.ok entry))
  | await {registry : Registry} (h : (outcome (registry.await d) s).1 = some (.ok entry))

/-- It is given exactly by a look, now or later, that finds its encoding. -/
theorem Retrieved.exists_fetch? {s : Store} {d : Digest} {entry : Entry}
    (h : Retrieved s d entry) : ∃ now, s.now ≤ now ∧
      (s.atTime now).fetch? d = .ok (some entry.encode) ∧ Genuine d entry := by
  cases h with
  | fetch h =>
    obtain ⟨log, hfetch⟩ := outcome_fetch d s
    rw [hfetch] at h
    exact ⟨s.now, Nat.le_refl _, fetchVerdict_eq_ok_iff.1 (Option.some.inj h)⟩
  | @await registry h =>
    rcases outcome_await_cases registry d s with hnone | ⟨now, hle, hawait⟩
    · cases hnone.symm.trans h
    · exact ⟨now, hle, fetchVerdict_eq_ok_iff.1 (Option.some.inj (hawait.symm.trans h))⟩

/-- Whoever waits for what can be fetched gets it. -/
theorem outcome_await_of_fetch {registry : Registry} {d : Digest} {s : Store} {entry : Entry}
    (hclock : s.now + registry.patience.timeout < clockEnd)
    (h : (outcome (fetch d) s).1 = some (.ok entry)) :
    (outcome (registry.await d) s).1 = some (.ok entry) := by
  obtain ⟨log, hfetch⟩ := outcome_fetch d s
  rw [hfetch] at h
  obtain ⟨hfound, -⟩ := fetchVerdict_eq_ok_iff.1 (Option.some.inj h)
  -- the first look finds it, so there is no waiting
  have hwait : outcome (onStore (Store.await d registry.patience)) s =
      outcome (onStore (Store.fetch d)) s := by
    rw [onStore, onStore, outcome_adapt, outcome_adapt,
      Store.outcome_await_of_found hclock (by simp [hfound])]
  rw [await, outcome_bind, hwait, ← outcome_bind, ← fetch, hfetch]
  exact h

/-- Genuine entries with the same encoding are the same. -/
theorem Genuine.eq_of_encode_eq {d e : Digest} {entry other : Entry} (h : Genuine d entry)
    (hother : Genuine e other) (hencode : entry.encode = other.encode) : entry = other := by
  -- the same bytes under the same digest are taken for one entry only
  have hverdict := fetchVerdict_eq_ok_iff.2 ⟨rfl, h⟩
  have hagain := fetchVerdict_eq_ok_iff.2 ⟨rfl, hother⟩
  obtain rfl := h.digest_eq
  obtain rfl := hother.digest_eq
  have hdigest : entry.digest = other.digest := congrArg Digest.of hencode
  rw [hencode, hdigest, hagain] at hverdict
  exact (Except.ok.inj hverdict).symm

/-- Whatever a store holds, an entry that it gives under a digest has this digest, and its text is a
    valid program of its tree. So all stores give the same entry under a digest, unless two
    encodings have it. What is fetched is exactly the visible bytes that are such an entry's, and
    whoever waits gets what can be fetched. -/
theorem genuine_of_retrieved :
    (∀ (s : Store) (d : Digest) (entry : Entry),
      (outcome (fetch d) s).1 = some (.ok entry) ↔
        s.fetch? d = .ok (some entry.encode) ∧ Genuine d entry) ∧
    (∀ (registry : Registry) (s : Store) (d : Digest) (entry : Entry),
      s.now + registry.patience.timeout < clockEnd →
      (outcome (fetch d) s).1 = some (.ok entry) →
      (outcome (registry.await d) s).1 = some (.ok entry)) ∧
    (∀ (s : Store) (d : Digest) (entry : Entry), Retrieved s d entry → Genuine d entry) ∧
    ∀ (s t : Store) (d : Digest) (entry other : Entry), Retrieved s d entry →
      Retrieved t d other → (entry.digest = other.digest → entry.encode = other.encode) →
      entry = other := by
  refine ⟨fun s d entry => ?_, fun registry s d entry => outcome_await_of_fetch,
    fun s d entry h => ?_, fun s t d entry other h hother hfree => ?_⟩
  · obtain ⟨log, h⟩ := outcome_fetch d s
    rw [h, ← fetchVerdict_eq_ok_iff, Option.some.injEq]
  · obtain ⟨now, -, -, hgenuine⟩ := h.exists_fetch?
    exact hgenuine
  · obtain ⟨now, -, -, hgenuine⟩ := h.exists_fetch?
    obtain ⟨later, -, -, hagain⟩ := hother.exists_fetch?
    exact hgenuine.eq_of_encode_eq hagain
      (hfree (hgenuine.digest_eq.trans hagain.digest_eq.symm))

/-- A program in a store with other bytes beside it, and in one where it was to settle until now, is
    genuine in both and the same. -/
theorem genuine_of_retrieved_beside_other_bytes :
    Genuine (Entry.digest ⟨"x", .symbol "x", []⟩) ⟨"x", .symbol "x", []⟩ ∧
    (outcome (await ⟨3, ⟨1, 10⟩⟩ (Entry.digest ⟨"x", .symbol "x", []⟩))
      ⟨.memory [(Entry.digest ⟨"x", .symbol "x", []⟩, Entry.encode ⟨"x", .symbol "x", []⟩)],
        some ⟨5, [(Entry.digest ⟨"x", .symbol "x", []⟩, 5)]⟩, .empty, 5, []⟩).1 =
      some (.ok ⟨"x", .symbol "x", []⟩) := by
  let entry : Entry := ⟨"x", .symbol "x", []⟩
  let d : Digest := entry.digest
  let s : Store := ⟨.memory [(d, entry.encode), (Digest.of [], [0])], none, .empty, 0, []⟩
  let t : Store := ⟨.memory [(d, entry.encode)], some ⟨5, [(d, 5)]⟩, .empty, 5, []⟩
  have hgenuine : Genuine d entry := ⟨rfl, by decide +kernel, by decide⟩
  have hs : s.fetch? d = .ok (some entry.encode) := by
    simp [Store.fetch?, Store.isVisible, Store.visibleFrom?, Store.bytes?, s]
  have ht : t.fetch? d = .ok (some entry.encode) := by
    simp [Store.fetch?, Store.isVisible, Store.visibleFrom?, Store.bytes?, t]
  obtain ⟨hfetch, hawait, hall, hsame⟩ := genuine_of_retrieved
  have h := hawait ⟨3, ⟨1, 10⟩⟩ t d entry (by decide) ((hfetch t d entry).2 ⟨ht, hgenuine⟩)
  exact ⟨hall s d entry (.fetch ((hfetch s d entry).2 ⟨hs, hgenuine⟩)), h⟩

end Formulary.Registry
