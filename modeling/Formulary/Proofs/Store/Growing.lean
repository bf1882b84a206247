import Formulary.Proofs.Store.Operations

/-!
# How undisturbed stores grow

A store that nobody disturbs never fails to write. What is written where there is nothing is there
from then on, beside all that was there before (`Grows`), and where there is something nothing
changes. Only the clock may run out on bytes that have to settle; they are there by then.

* `Undisturbed.write_cases`: what becomes of bytes that are to be written;
* `Undisturbed.keeps_put`: an entry that is put is kept.
-/

namespace Formulary.Store

variable {ε : Type} {s t u : Store} {d : Digest} {b : Bytes}

/-- The store has got the bytes under the digest. All that was there under others is there still,
    and no time has passed. -/
structure Grows (s : Store) (d : Digest) (b : Bytes) (t : Store) : Prop where
  undisturbed : t.Undisturbed
  delay?_eq : t.delay? = s.delay?
  now_eq : t.now = s.now
  bytes?_eq : ∀ e, t.bytes? e = if e = d then .ok (some b) else s.bytes? e

namespace Grows

theorem log_after (h : Grows s d b t) (log : List Event) : Grows s d b { t with log } :=
  ⟨h.undisturbed.of_passes (.of_log t log), h.delay?_eq, h.now_eq, h.bytes?_eq⟩

/-- Looks before that do not matter. -/
theorem of_looked_before (hu : Looked s u) (h : Grows u d b t) : Grows s d b t :=
  ⟨h.undisturbed, h.delay?_eq.trans hu.delay?_eq, h.now_eq.trans hu.now_eq,
    fun e => by rw [h.bytes?_eq, hu.bytes?_eq]⟩

theorem receives (h : Grows s d b t) (hd : s.bytes? d = .ok none) : Receives s d b t := by
  intro e
  rw [h.bytes?_eq]
  simp only [hd, and_true]

end Grows

/-- It is marked when bytes become visible, if that can be told. Nothing else changes. -/
theorem Undisturbed.settle_cases (hs : s.Undisturbed) (d : Digest) :
    ∃ t, t.Undisturbed ∧ t.delay? = s.delay? ∧ t.now = s.now ∧ t.bytes? = s.bytes? ∧
      (s.SettlesInTime ∧ outcome (liftM (settle d) : Action Unit) s = (some (.ok ()), t) ∨
        ¬s.SettlesInTime ∧ outcome (liftM (settle d) : Action Unit) s = (none, t)) := by
  rcases hsettling : s.settling with _ | settling
  · refine ⟨s, hs, rfl, rfl, rfl, .inl ⟨by simp [SettlesInTime, hsettling], ?_⟩⟩
    rw [outcome_liftM, run_settle_of_none d hsettling]
    rfl
  · have hintime : s.SettlesInTime ↔ s.now + settling.delay < clockEnd := by
      simp [SettlesInTime, hsettling]
    have hsettle := run_settle_of_some d hsettling
    by_cases hclock : s.now + settling.delay < clockEnd
    · refine ⟨s.withStart settling d (s.now + settling.delay), hs.of_eq rfl rfl, ?_, rfl, rfl,
        .inl ⟨hintime.2 hclock, ?_⟩⟩
      · rw [delay?, delay?, hsettling]
        rfl
      · rw [outcome_liftM, hsettle, if_pos hclock]
        rfl
    · refine ⟨s, hs, rfl, rfl, rfl, .inr ⟨mt hintime.1 hclock, ?_⟩⟩
      rw [outcome_liftM, hsettle, if_neg hclock]
      rfl

/-- Bytes are written where there is nothing, whether it can be told when they become visible or
    not. -/
theorem Undisturbed.write_cases (hs : s.Undisturbed) (d : Digest) (b : Bytes) :
    (s.bytes? d ≠ .ok none ∧ outcome (write d b) s = (some (.ok false), s)) ∨
    s.bytes? d = .ok none ∧ ∃ t, Grows s d b t ∧
      (s.SettlesInTime ∧ outcome (write d b) s = (some (.ok true), t) ∨
        ¬s.SettlesInTime ∧ outcome (write d b) s = (none, t)) := by
  rcases hs.outcome_writeToShelf d b with ⟨hd, h⟩ | ⟨hd, shelf, disk, h, hu, hbytes⟩
  · refine .inl ⟨hd, ?_⟩
    rw [write, outcome_bind_of_ok h]
    rfl
  · -- the bytes are on the shelf by now, and only the clock can run out
    obtain ⟨t, ht, hdelay, hnow, hkept, hsettle⟩ := hu.settle_cases d
    refine .inr ⟨hd, t, ⟨ht, hdelay, hnow, fun e => by rw [hkept, hbytes]⟩, ?_⟩
    rw [write, outcome_bind_of_ok h]
    rcases hsettle with ⟨hclock, hsettle⟩ | ⟨hclock, hsettle⟩
    · exact .inl ⟨hclock, outcome_bind_of_ok hsettle _⟩
    · exact .inr ⟨hclock, outcome_bind_of_none hsettle _⟩

/-! ## Entries -/

/-- The action keeps the entry and gives its digest. If the store holds something under it there are
    no more than looks; otherwise it gets the encoding, also when the action breaks off because it
    cannot be told when that becomes visible. -/
inductive Keeps (x : ExceptT ε Run Digest) (entry : Entry) (s : Store) : Prop
  | held {t : Store} (hd : s.bytes? entry.digest ≠ .ok none) (ht : Looked s t)
      (h : outcome x s = (some (.ok entry.digest), t))
  | received {t : Store} (hd : s.bytes? entry.digest = .ok none)
      (hgrows : Grows s entry.digest entry.encode t) (hclock : s.SettlesInTime)
      (h : outcome x s = (some (.ok entry.digest), t))
  | brokenOff {t : Store} (hd : s.bytes? entry.digest = .ok none)
      (hgrows : Grows s entry.digest entry.encode t) (hclock : ¬s.SettlesInTime)
      (h : outcome x s = (none, t))

theorem Undisturbed.keeps_put (hs : s.Undisturbed) (entry : Entry) :
    Keeps (put entry) entry s := by
  rcases hs.write_cases entry.digest entry.encode with
    ⟨hd, h⟩ | ⟨hd, t, hgrows, ⟨hclock, h⟩ | ⟨hclock, h⟩⟩
  · exact .held hd (.of_log s (s.log ++ [.alreadyWritten entry.digest]))
      ((outcome_bind_of_ok h _).trans rfl)
  · exact .received hd (hgrows.log_after (t.log ++ [.written entry.digest])) hclock
      ((outcome_bind_of_ok h _).trans rfl)
  · exact .brokenOff hd hgrows hclock (outcome_bind_of_none h _)

namespace Keeps

variable {x y : ExceptT ε Run Digest} {entry : Entry}

/-- Looks before that do not matter. -/
theorem of_looked_before (hu : Looked s u) (h : Keeps x entry u)
    (hy : outcome y s = outcome x u) : Keeps y entry s := by
  have hbytes := congrFun hu.bytes?_eq entry.digest
  cases h with
  | held hd ht h => exact .held (hbytes ▸ hd) (hu.trans ht) (hy.trans h)
  | received hd hgrows hclock h =>
    exact .received (hbytes ▸ hd) (hgrows.of_looked_before hu) (hu.settlesInTime_iff.1 hclock)
      (hy.trans h)
  | brokenOff hd hgrows hclock h =>
    exact .brokenOff (hbytes ▸ hd) (hgrows.of_looked_before hu)
      (mt hu.settlesInTime_iff.2 hclock) (hy.trans h)

/-- The digest is given unless the clock runs out on something new. -/
theorem outcome_fst (h : Keeps x entry s) :
    (s.SettlesInTime ∨ s.bytes? entry.digest ≠ .ok none) ∧
        (outcome x s).1 = some (.ok entry.digest) ∨
      ¬(s.SettlesInTime ∨ s.bytes? entry.digest ≠ .ok none) ∧ (outcome x s).1 = none := by
  cases h with
  | held hd ht h => exact .inl ⟨.inr hd, congrArg Prod.fst h⟩
  | received hd hgrows hclock h => exact .inl ⟨.inl hclock, congrArg Prod.fst h⟩
  | brokenOff hd hgrows hclock h =>
    exact .inr ⟨fun hor => hor.elim hclock fun hheld => hheld hd, congrArg Prod.fst h⟩

theorem undisturbed (h : Keeps x entry s) (hs : s.Undisturbed) : (outcome x s).2.Undisturbed := by
  cases h with
  | held hd ht h =>
    rw [h]
    exact hs.of_passes ht.toPasses
  | received hd hgrows hclock h =>
    rw [h]
    exact hgrows.undisturbed
  | brokenOff hd hgrows hclock h =>
    rw [h]
    exact hgrows.undisturbed

theorem receives (h : Keeps x entry s) :
    Receives s entry.digest entry.encode (outcome x s).2 := by
  cases h with
  | held hd ht h =>
    rw [h]
    intro e
    rw [if_neg fun he => hd he.2, ht.bytes?_eq]
  | received hd hgrows hclock h =>
    rw [h]
    exact hgrows.receives hd
  | brokenOff hd hgrows hclock h =>
    rw [h]
    exact hgrows.receives hd

/-- What the store holds already is not written again. -/
theorem passes_of_held (h : Keeps x entry s) (hd : s.bytes? entry.digest ≠ .ok none) :
    Passes s (outcome x s).2 := by
  cases h with
  | held _ ht h =>
    rw [h]
    exact ht.toPasses
  | received hnone => exact absurd hnone hd
  | brokenOff hnone => exact absurd hnone hd

end Keeps

/-! ## Stores that do not settle -/

theorem isVisible_of_none (hs : s.settling = none) (d : Digest) : s.isVisible d := by
  rw [isVisible, visibleFrom?, hs]
  rfl

theorem fetch?_of_none (hs : s.settling = none) (d : Digest) :
    s.fetch? d = s.bytes? d := by
  rw [fetch?, if_pos (isVisible_of_none hs d)]

/-- All that is on the shelf is listed. -/
theorem outcome_digests_of_none {ds : List Digest}
    (h : outcome shelfDigests s = (some (.ok ds), t)) (ht : t.settling = none) :
    outcome digests s = (some (.ok ds), t) := by
  have hall : ds.filter t.isVisible = ds :=
    List.filter_eq_self.2 fun d _ => isVisible_of_none ht d
  rw [outcome_digests h, hall, lookedAtAll_of_none ht]

theorem settlesInTime_of_none (hs : s.settling = none) : s.SettlesInTime := by
  simp [SettlesInTime, hs]

/-- A store that does not settle still does not when it has grown. -/
theorem Grows.settling_eq_none (h : Grows s d b t) (hs : s.settling = none) :
    t.settling = none := by
  simpa [delay?, hs] using h.delay?_eq

theorem Keeps.settling_eq_none {x : ExceptT ε Run Digest} {entry : Entry} (h : Keeps x entry s)
    (hs : s.settling = none) : (outcome x s).2.settling = none := by
  cases h with
  | held hd ht h =>
    rw [h]
    exact ht.settling_eq_none hs
  | received hd hgrows hclock h =>
    rw [h]
    exact hgrows.settling_eq_none hs
  | brokenOff hd hgrows hclock h =>
    rw [h]
    exact hgrows.settling_eq_none hs

end Formulary.Store
