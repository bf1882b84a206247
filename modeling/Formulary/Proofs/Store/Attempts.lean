import Formulary.Proofs.Store.Awaiting

/-!
# How often somebody looks who waits

Waiting may start between two ticks of the clock, but every look after the first one is made at a
tick, and until the timeout is over they are some whole number of ticks apart (`Waits.min_now`, by
induction on the looks). So it is known beforehand how many looks are to be made if none of them
finds anything (`lookCount`), and there are never more.

* `Waits.now_lt_iff`: there is another look after one that finds nothing exactly if not all of these
  are made;
* `Waits.lt_lookCount`, `exists_waits`: the count is not exceeded, and is reached where there is
  nothing to be found;
* `lookCount_le_intervals`, `lookCount_le_ticks`: what the timeout says about the count.
-/

namespace Formulary.Store

variable {d : Digest} {patience : Patience} {s t : Store} {n : Nat}

/-! ## Ticks -/

theorem dvd_tickFrom (t : Instant) : tick ∣ tickFrom t :=
  Nat.dvd_mul_left _ _

theorem tickFrom_add_of_dvd {t : Instant} (h : tick ∣ t) (u : Instant) :
    tickFrom (t + u) = t + tickFrom u := by
  obtain ⟨n, rfl⟩ := h
  have htick : 0 < tick := by decide
  rw [tickFrom, tickFrom, Nat.add_assoc, Nat.mul_add_div htick, Nat.add_mul, Nat.mul_comm n]

/-- The time from one look to the next: the interval, up to a tick of the clock. -/
def gap (patience : Patience) : Duration :=
  tickFrom (interval patience)

theorem interval_le_gap (patience : Patience) : interval patience ≤ gap patience :=
  le_tickFrom _

theorem Polls.gap_pos (h : Polls patience) (htimeout : 0 < patience.timeout) : 0 < gap patience :=
  Nat.lt_of_lt_of_le (h.interval_pos htimeout) (interval_le_gap patience)

theorem Polls.tick_le_gap (h : Polls patience) (htimeout : 0 < patience.timeout) :
    tick ≤ gap patience :=
  Nat.le_of_dvd (h.gap_pos htimeout) (dvd_tickFrom _)

/-- As far as this is before the end, the next look after one at a tick is a gap later. -/
theorem min_nextLook {deadline now : Instant} (hnow : tick ∣ now) (h : now < deadline) :
    min deadline (nextLook patience.pollInterval deadline now) =
      min deadline (now + gap patience) := by
  rw [nextLook_eq_tickFrom]
  rcases Nat.le_total (interval patience) (deadline - now) with hle | hle
  · rw [min_eq_left hle, tickFrom_add_of_dvd hnow]
    rfl
  · -- both are past the end
    have hgap : deadline ≤ now + gap patience :=
      Nat.sub_le_iff_le_add'.1 (hle.trans (interval_le_gap patience))
    rw [min_eq_right hle, Nat.add_sub_cancel' h.le, min_eq_left (le_tickFrom deadline),
      min_eq_left hgap]

/-! ## Counting -/

/-- How many looks are made that find nothing: one at once, one after the first pause, and one after
    every gap until the timeout is over. -/
def lookCount (patience : Patience) (start : Instant) : Nat :=
  let deadline := start + patience.timeout
  if patience.timeout = 0 then 1
  else (deadline - nextLook patience.pollInterval deadline start) ⌈/⌉ gap patience + 2

theorem lookCount_pos (patience : Patience) (start : Instant) : 0 < lookCount patience start := by
  rw [lookCount]
  split_ifs <;> omega

namespace Waits

theorem timeout_pos (h : Waits d patience s (n + 1) t) : 0 < patience.timeout := by
  cases h with
  | again h hcount hnone hnow => exact Nat.pos_of_lt_add_right (Nat.lt_of_le_of_lt h.now_le hnow)

/-- After the first pause all looks are at ticks. -/
theorem tick_dvd_now (h : Waits d patience s (n + 1) t) : tick ∣ t.now := by
  cases h with
  | again => exact dvd_tickFrom _

/-- As far as they are before the end, the looks after the first pause are a gap apart. -/
theorem min_now (h : Waits d patience s (n + 1) t) :
    let deadline := s.now + patience.timeout
    min deadline t.now =
      min deadline (nextLook patience.pollInterval deadline s.now + n * gap patience) := by
  intro deadline
  induction n generalizing t with
  | zero =>
    cases h with
    | again h =>
      cases h
      rw [Nat.zero_mul, Nat.add_zero]
      rfl
  | succ n ih =>
    cases h with
    | @again _ t h hcount hnone hnow =>
      have hcut (look : Instant) : min deadline (look + gap patience) =
          min deadline (min deadline look + gap patience) := by
        rw [← min_add_add_right, ← min_assoc, min_eq_left (Nat.le_add_right _ _)]
      refine (min_nextLook h.tick_dvd_now hnow).trans ?_
      rw [hcut, ih h, ← hcut, Nat.succ_mul, Nat.add_assoc]

/-- A look that finds nothing is followed by another one exactly if more are to be made. -/
theorem now_lt_iff (hpolls : Polls patience) (h : Waits d patience s n t) :
    t.now < s.now + patience.timeout ↔ n + 1 < lookCount patience s.now := by
  rw [lookCount]
  cases n with
  | zero =>
    cases h
    split_ifs with hzero
    · simp [hzero]
    · exact iff_of_true (Nat.lt_add_of_pos_right (Nat.pos_of_ne_zero hzero))
        (Nat.succ_lt_succ (Nat.succ_pos _))
  | succ n =>
    have hpos := h.timeout_pos
    have hnow := h.min_now
    have hcut (look : Instant) : look < s.now + patience.timeout ↔
        min (s.now + patience.timeout) look < s.now + patience.timeout := by
      simp
    rw [if_neg hpos.ne', hcut, hnow, ← hcut, ← not_le, ← Nat.sub_le_iff_le_add', Nat.mul_comm,
      ← ceilDiv_le_iff_le_mul (hpolls.gap_pos hpos), not_le]
    exact (Nat.add_lt_add_iff_right).symm

theorem lt_lookCount (hpolls : Polls patience) (h : Waits d patience s n t) :
    n < lookCount patience s.now := by
  cases h with
  | start => exact lookCount_pos _ _
  | again h hcount hnone hnow => exact (h.now_lt_iff hpolls).1 hnow

/-- Where nothing is, no look finds anything. -/
theorem fetch?_eq_none (hmissing : s.bytes? d = .ok none) (h : Waits d patience s n t) :
    t.fetch? d = .ok none := by
  rw [h.fetch?_eq, fetch?_atTime_eq, hmissing, ite_self]

end Waits

/-- Where nothing is, all the looks are made that can be counted. -/
theorem exists_waits (hpolls : Polls patience) (hmissing : s.bytes? d = .ok none)
    (hn : n < lookCount patience s.now) (hcount : n ≤ greatestCount) :
    ∃ t, Waits d patience s n t := by
  induction n with
  | zero => exact ⟨s, .start⟩
  | succ n ih =>
    obtain ⟨t, h⟩ := ih (Nat.lt_of_succ_lt hn) (Nat.le_of_succ_le hcount)
    exact ⟨_, .again h hcount (h.fetch?_eq_none hmissing) ((h.now_lt_iff hpolls).2 hn)⟩

/-- Where nothing is, waiting ends when all the looks are made, and their number is told; or it
    breaks off, if they cannot be counted. -/
theorem awaitUntil_of_nowhere (hpolls : Polls patience) (hmissing : s.bytes? d = .ok none) :
    if lookCount patience s.now ≤ greatestCount then
      ∃ now, awaitUntil d patience.pollInterval (s.now + patience.timeout) 0 s =
        (some (.error (.notFound d)), { (s.atTime now).lookedAt d with
          log := s.log ++ [.notVisible d (UInt32.ofNat (lookCount patience s.now))] })
    else (awaitUntil d patience.pollInterval (s.now + patience.timeout) 0 s).1 = none := by
  split_ifs with hcount
  · obtain ⟨last, hlast⟩ := Nat.exists_eq_succ_of_ne_zero (lookCount_pos patience s.now).ne'
    rw [hlast] at hcount ⊢
    obtain ⟨t, h⟩ := exists_waits hpolls hmissing (hlast ▸ Nat.lt_succ_self last)
      (Nat.le_of_succ_le hcount)
    have hover : ¬t.now < s.now + patience.timeout := by
      rw [h.now_lt_iff hpolls, hlast]
      exact lt_irrefl _
    exact ⟨t.now, h.awaitUntil_of_over hcount (h.fetch?_eq_none hmissing) (not_lt.1 hover)⟩
  · obtain ⟨t, h⟩ := exists_waits hpolls hmissing (not_le.1 hcount) le_rfl
    rw [h.awaitUntil_of_uncounted]

/-! ## What the timeout says about the count -/

/-- There is no more than a look for every interval, and one. -/
theorem lookCount_le_intervals (hpolls : Polls patience) (start : Instant) :
    lookCount patience start ≤ patience.timeout ⌈/⌉ interval patience + 1 := by
  rw [lookCount]
  split_ifs with hzero
  · exact Nat.le_add_left _ _
  have hpos := Nat.pos_of_ne_zero hzero
  have hnext := le_tickFrom
    (start + min (interval patience) (start + patience.timeout - start))
  rw [← nextLook_eq_tickFrom, Nat.add_sub_cancel_left] at hnext
  -- the first pause takes an interval, unless the timeout is over before
  have hcover : patience.timeout ≤
      interval patience * (patience.timeout ⌈/⌉ interval patience) :=
    le_smul_ceilDiv (hpolls.interval_pos hpos)
  generalize patience.timeout ⌈/⌉ interval patience = intervals at hcover ⊢
  cases intervals with
  | zero => exact absurd hcover (not_le.2 hpos)
  | succ m =>
    refine Nat.add_le_add_right ((ceilDiv_le_iff_le_mul (hpolls.gap_pos hpos)).2 ?_) 2
    rw [Nat.mul_succ, ← Nat.sub_le_iff_le_add] at hcover
    calc start + patience.timeout -
          nextLook patience.pollInterval (start + patience.timeout) start
        ≤ start + patience.timeout - (start + min (interval patience) patience.timeout) :=
          Nat.sub_le_sub_left hnext _
      _ = patience.timeout - interval patience := by
          rw [Nat.add_sub_add_left, min_comm, tsub_min]
      _ ≤ interval patience * m := hcover
      _ ≤ gap patience * m := Nat.mul_le_mul_right m (interval_le_gap patience)

/-- There is no more than a look for every tick, and two. -/
theorem lookCount_le_ticks (hpolls : Polls patience) (start : Instant) :
    lookCount patience start ≤ patience.timeout ⌈/⌉ tick + 2 := by
  rw [lookCount]
  split_ifs with hzero
  · exact Nat.le_add_left 1 (_ + 1)
  have hpos := Nat.pos_of_ne_zero hzero
  have hnext := le_nextLook patience.pollInterval (start + patience.timeout) start
  have htick : 0 < tick := by decide
  refine Nat.add_le_add_right ((ceilDiv_le_iff_le_mul (hpolls.gap_pos hpos)).2 ?_) 2
  calc start + patience.timeout - nextLook patience.pollInterval (start + patience.timeout) start
      ≤ patience.timeout :=
      Nat.sub_le_iff_le_add'.2 (Nat.add_le_add_right hnext _)
    _ ≤ tick * (patience.timeout ⌈/⌉ tick) := le_smul_ceilDiv htick
    _ ≤ gap patience * (patience.timeout ⌈/⌉ tick) :=
      Nat.mul_le_mul_right _ (hpolls.tick_le_gap hpos)

/-- The looks can be counted if there is no more time than for one in each interval, or in each
    tick. -/
theorem lookCount_le_greatestCount (hpolls : Polls patience)
    (htimeout : patience.timeout ≤ (greatestCount - 1) * interval patience ∨
      patience.timeout ≤ (greatestCount - 2) * tick) (start : Instant) :
    lookCount patience start ≤ greatestCount := by
  rcases htimeout with hfew | hfew
  · refine (lookCount_le_intervals hpolls start).trans (Nat.add_le_of_le_sub (by decide) ?_)
    rcases Nat.eq_zero_or_pos patience.timeout with hzero | hpos
    · simp [hzero]
    · rwa [ceilDiv_le_iff_le_mul (hpolls.interval_pos hpos), Nat.mul_comm]
  · refine (lookCount_le_ticks hpolls start).trans (Nat.add_le_of_le_sub (by decide) ?_)
    rwa [ceilDiv_le_iff_le_mul (by decide : 0 < tick), Nat.mul_comm]

/-! ## Waiting that comes to an end -/

/-- Whoever starts to wait gives up at a moment that can be told, after looks that can be counted.
    -/
structure WaitsInTime (patience : Patience) (start : Instant) : Prop where
  polls : Polls patience
  lt_clockEnd : start + patience.timeout < clockEnd
  lookCount_le : lookCount patience start ≤ greatestCount

/-- Then waiting does not break off, whatever is there. -/
theorem WaitsInTime.outcome_await_ne_none (h : WaitsInTime patience s.now) (d : Digest) :
    (outcome (await d patience) s).1 ≠ none := by
  rw [Ne, outcome_await_eq_none_iff]
  rintro (hclock | ⟨t, ht⟩)
  · exact h.lt_clockEnd.not_ge hclock
  · exact (ht.lt_lookCount h.polls).not_ge h.lookCount_le

end Formulary.Store
