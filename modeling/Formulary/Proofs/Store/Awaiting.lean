import Formulary.Proofs.Store.Looking
import Mathlib.Algebra.Order.Floor.Div

/-!
# When somebody looks who waits

Whoever waits for an entry looks for it again and again. What they look at is always the store as it
would be at this moment if nobody had looked before, but for what the looks before have made it
forget (`Waits.lookedAt_eq`, by induction on the looks). So waiting ends in one of three ways
(`Waits.exists_end`): a look finds something, the timeout is over, or no further look can be
counted.

Where the clock ticks in time, the looks are made at moments that are known beforehand: at regular
intervals from the start on, and when the timeout is over (`Waits.now_eq_lookTime`). What is under a
digest can be seen from one moment on (`visibleSince`), so the look that finds it is known as well.

* `outcome_await_eq_none_iff`: when waiting breaks off;
* `awaited_on_schedule`: what becomes of waiting, and when.
-/

namespace Formulary.Store

variable {d : Digest} {patience : Patience} {s t : Store} {n : Nat}

/-! ## What a look finds -/

/-- Whether a look at a moment gives anything, be it an error, but that there is no entry. -/
def finds (d : Digest) (s : Store) (now : Instant) : Bool :=
  match (outcome (fetch d) (s.atTime now)).1 with
  | some (.error (.notFound _)) => false
  | _ => true

/-- When what is under a digest can be seen for the first time, if something is there. -/
def visibleSince (d : Digest) (s : Store) : Instant :=
  (s.visibleFrom? d).getD 0

theorem fetch?_atTime_eq (d : Digest) (s : Store) (now : Instant) :
    (s.atTime now).fetch? d = if visibleSince d s ≤ now then s.bytes? d else .ok none := by
  have hvisible : (s.atTime now).isVisible d ↔ visibleSince d s ≤ now := by
    have hmarks : (s.atTime now).visibleFrom? d = s.visibleFrom? d := rfl
    rw [isVisible_iff, hmarks, visibleSince]
    cases s.visibleFrom? d <;> simp [atTime]
  have hbytes : (s.atTime now).bytes? d = s.bytes? d := rfl
  rw [fetch?, hbytes]
  simp only [hvisible]

/-- A look that finds nothing leaves what any look leaves. -/
theorem outcome_fetch_of_none (h : s.fetch? d = .ok none) :
    outcome (fetch d) s = (some (.error (.notFound d)), s.lookedAt d) := by
  have hread := outcome_read d s
  rw [h] at hread
  exact outcome_bind_of_ok hread _

theorem finds_eq_false_iff {now : Instant} :
    finds d s now = false ↔ (s.atTime now).fetch? d = .ok none := by
  obtain ⟨log, hlook⟩ := outcome_fetch d (s.atTime now)
  have hmissing := @lookVerdict_eq_notFound_iff (s.atTime now) d
  rw [finds, hlook]
  generalize lookVerdict d ((s.atTime now).fetch? d) = verdict at hmissing ⊢
  constructor
  · intro h
    dsimp only at h
    split at h
    case h_1 e heq => exact (hmissing.1 (Option.some.inj heq)).1
    case h_2 => cases h
  · intro h
    rw [hmissing.2 ⟨h, rfl⟩]

/-- A look finds something if something is there and can be seen by then. -/
theorem finds_eq_decide {now : Instant} (h : s.bytes? d ≠ .ok none) :
    finds d s now = decide (visibleSince d s ≤ now) := by
  rw [Bool.eq_iff_iff, ← not_iff_not, Bool.not_eq_true, Bool.not_eq_true, finds_eq_false_iff,
    fetch?_atTime_eq, decide_eq_false_iff_not]
  split_ifs with hsince <;> simp [h, hsince]

/-! ## Looking again -/

theorem toNat_ofNat_of_le (h : n ≤ greatestCount) : (UInt32.ofNat n).toNat = n :=
  UInt32.toNat_ofNat_of_lt' (Nat.lt_of_le_pred (by decide) h)

/-- Somebody who waits since `s` is about to look in `t`, having looked so many times in vain, as
    far as these looks can be counted. -/
inductive Waits (d : Digest) (patience : Patience) (s : Store) : Nat → Store → Prop
  | start : Waits d patience s 0 s
  | again {n : Nat} {t : Store} (h : Waits d patience s n t) (hcount : n < greatestCount)
      (hnone : t.fetch? d = .ok none) (hnow : t.now < s.now + patience.timeout) :
      Waits d patience s (n + 1)
        ((t.lookedAt d).atTime (nextLook patience.pollInterval (s.now + patience.timeout) t.now))

namespace Waits

theorem le_greatestCount (h : Waits d patience s n t) : n ≤ greatestCount := by
  cases h with
  | start => exact Nat.zero_le _
  | again h hcount => exact hcount

theorem now_le (h : Waits d patience s n t) : s.now ≤ t.now := by
  induction h with
  | start => exact Nat.le_refl _
  | again h hcount hnone hnow ih => exact ih.trans (le_nextLook _ _ _)

/-- What a look leaves is what it would leave if it were the first one. -/
theorem lookedAt_eq (h : Waits d patience s n t) : t.lookedAt d = (s.atTime t.now).lookedAt d := by
  induction h with
  | start => rfl
  | @again n t h hcount hnone hnow ih =>
    have hle := le_nextLook patience.pollInterval (s.now + patience.timeout) t.now
    have hle' : (s.atTime t.now).now ≤ nextLook patience.pollInterval _ t.now := hle
    rw [ih, lookedAt_atTime_lookedAt d hle']
    rfl

/-- So is what it finds. -/
theorem outcome_fetch_eq (h : Waits d patience s n t) :
    outcome (fetch d) t = outcome (fetch d) (s.atTime t.now) := by
  rw [← outcome_fetch_lookedAt, h.lookedAt_eq, outcome_fetch_lookedAt]

theorem fetch?_eq (h : Waits d patience s n t) : t.fetch? d = (s.atTime t.now).fetch? d := by
  rw [← fetch?_lookedAt t d, h.lookedAt_eq, fetch?_lookedAt]

theorem log_eq (h : Waits d patience s n t) : t.log = s.log := by
  induction h with
  | start => rfl
  | @again n t h hcount hnone hnow ih =>
    obtain ⟨settling, -, ht⟩ := t.exists_lookedAt_eq d
    rw [ht]
    exact ih

/-- What is left to do is what `awaitUntil` does in `t` when so many looks were made before. -/
theorem awaitUntil_eq (h : Waits d patience s n t) :
    awaitUntil d patience.pollInterval (s.now + patience.timeout) 0 s =
      awaitUntil d patience.pollInterval (s.now + patience.timeout) (UInt32.ofNat n) t := by
  induction h with
  | start => rfl
  | @again n t h hcount hnone hnow ih =>
    have hcount' : (UInt32.ofNat n).toNat < greatestCount := by rwa [toNat_ofNat_of_le hcount.le]
    have hlook := outcome_fetch_of_none hnone
    rw [ih, awaitUntil_of_missing hcount' (congrArg Prod.fst hlook), if_pos hnow, hlook,
      UInt32.ofNat_add]
    rfl

/-- A look that finds something ends the waiting. -/
theorem awaitUntil_of_found (h : Waits d patience s n t) (hn : n < greatestCount)
    (hfound : t.fetch? d ≠ .ok none) :
    awaitUntil d patience.pollInterval (s.now + patience.timeout) 0 s =
      outcome (fetch d) (s.atTime t.now) := by
  have hcount : (UInt32.ofNat n).toNat < greatestCount := by rwa [toNat_ofNat_of_le hn.le]
  rw [h.awaitUntil_eq, ← h.outcome_fetch_eq]
  refine Store.awaitUntil_of_found hcount (fun e he => hfound ?_) _ _
  obtain ⟨log, hlook⟩ := outcome_fetch d t
  rw [hlook] at he
  exact (lookVerdict_eq_notFound_iff.1 (Option.some.inj he)).1

/-- A look that finds nothing when the timeout is over ends it as well. -/
theorem awaitUntil_of_over (h : Waits d patience s n t) (hn : n < greatestCount)
    (hnone : t.fetch? d = .ok none) (hover : s.now + patience.timeout ≤ t.now) :
    awaitUntil d patience.pollInterval (s.now + patience.timeout) 0 s =
      (some (.error (.notFound d)), { (s.atTime t.now).lookedAt d with
        log := s.log ++ [.notVisible d (UInt32.ofNat (n + 1))] }) := by
  have hcount : (UInt32.ofNat n).toNat < greatestCount := by rwa [toNat_ofNat_of_le hn.le]
  have hlook := outcome_fetch_of_none hnone
  have hlog : (t.lookedAt d).log = s.log := (log_lookedAt t d).trans h.log_eq
  rw [h.awaitUntil_eq, awaitUntil_of_missing hcount (congrArg Prod.fst hlook),
    if_neg hover.not_gt, hlook, ← h.lookedAt_eq, ← hlog, UInt32.ofNat_add]
  rfl

/-- It breaks off before a look that cannot be counted. -/
theorem awaitUntil_of_uncounted (h : Waits d patience s greatestCount t) :
    awaitUntil d patience.pollInterval (s.now + patience.timeout) 0 s = (none, t) := by
  rw [h.awaitUntil_eq, Store.awaitUntil_of_uncounted (by decide)]

/-- One of these ends is reached. -/
theorem exists_end (d : Digest) (patience : Patience) (s : Store) :
    ∃ n t, Waits d patience s n t ∧ (n = greatestCount ∨ n < greatestCount ∧
      (t.fetch? d ≠ .ok none ∨ t.fetch? d = .ok none ∧ s.now + patience.timeout ≤ t.now)) := by
  -- otherwise there would be another look after each that can be counted
  by_contra hend
  have hall (n : Nat) (hn : n ≤ greatestCount) : ∃ t, Waits d patience s n t := by
    induction n with
    | zero => exact ⟨s, .start⟩
    | succ n ih =>
      obtain ⟨t, h⟩ := ih (Nat.le_of_succ_le hn)
      have hnone : t.fetch? d = .ok none := by
        by_contra hfound
        exact hend ⟨n, t, h, .inr ⟨hn, .inl hfound⟩⟩
      have hnow : t.now < s.now + patience.timeout := by
        by_contra hover
        exact hend ⟨n, t, h, .inr ⟨hn, .inr ⟨hnone, not_lt.1 hover⟩⟩⟩
      exact ⟨_, .again h hn hnone hnow⟩
  obtain ⟨t, h⟩ := hall greatestCount le_rfl
  exact hend ⟨_, t, h, .inl rfl⟩

end Waits

/-- Waiting breaks off exactly if the end of the timeout cannot be told, or as many looks are made
    in vain as can be counted before the timeout is over. -/
theorem outcome_await_eq_none_iff (d : Digest) (patience : Patience) (s : Store) :
    (outcome (await d patience) s).1 = none ↔
      clockEnd ≤ s.now + patience.timeout ∨ ∃ t, Waits d patience s greatestCount t := by
  rw [outcome_await]
  split_ifs with hclock
  · rw [or_iff_right hclock.not_ge]
    constructor
    · intro hnone
      obtain ⟨n, t, h, rfl | ⟨hn, hfound | ⟨hmissing, hover⟩⟩⟩ := Waits.exists_end d patience s
      · exact ⟨t, h⟩
      · rw [h.awaitUntil_of_found hn hfound] at hnone
        obtain ⟨log, hlook⟩ := outcome_fetch d (s.atTime t.now)
        simp [hlook] at hnone
      · simp [h.awaitUntil_of_over hn hmissing hover] at hnone
    · rintro ⟨t, h⟩
      rw [h.awaitUntil_of_uncounted]
  · exact iff_of_true rfl (.inl (not_lt.1 hclock))

/-! ## When the looks are -/

/-- The time from one look to the next: the poll interval, but no more than one sleep lasts. -/
def interval (patience : Patience) : Duration :=
  min patience.pollInterval longestSleep

/-- When the look after `k` others is made: as many intervals after the start, or at the end of the
    timeout if that is earlier. -/
def lookTime (patience : Patience) (start : Instant) (k : Nat) : Instant :=
  start + min (k * interval patience) patience.timeout

/-- The moments of the looks from `start` on: one at each interval that begins before the timeout is
    over, and one when it is. -/
def looks (patience : Patience) (start : Instant) : List Instant :=
  (List.range (patience.timeout ⌈/⌉ interval patience + 1)).map (lookTime patience start)

/-- The number of the looks is that of the intervals that have begun, and one. -/
theorem length_looks (patience : Patience) (start : Instant) :
    (looks patience start).length = patience.timeout ⌈/⌉ interval patience + 1 := by
  simp [looks]

/-- There is a poll interval, unless only one look is to be made. Settings that are valid have such
    a patience. -/
def Polls (patience : Patience) : Prop :=
  0 < patience.pollInterval ∨ patience.timeout = 0

theorem Polls.interval_pos (h : Polls patience) (htimeout : 0 < patience.timeout) :
    0 < interval patience :=
  lt_min (h.resolve_right htimeout.ne') (by decide)

/-- An interval is over before the end of the timeout exactly if it is not the last one. -/
theorem Polls.mul_lt_iff (h : Polls patience) {k : Nat} :
    k * interval patience < patience.timeout ↔ k < patience.timeout ⌈/⌉ interval patience := by
  rcases Nat.eq_zero_or_pos patience.timeout with hzero | hpos
  · simp [hzero]
  · rw [← not_le, ← not_le, ceilDiv_le_iff_le_mul (h.interval_pos hpos), Nat.mul_comm]

/-- There are no more intervals in a shorter time. -/
theorem Polls.ceilDiv_le (h : Polls patience) {time : Duration} (htime : time ≤ patience.timeout) :
    time ⌈/⌉ interval patience ≤ patience.timeout ⌈/⌉ interval patience := by
  rcases Nat.eq_zero_or_pos patience.timeout with hzero | hpos
  · rw [hzero, Nat.le_zero] at htime
    rw [htime, hzero]
  · exact (gc_mul_ceilDiv (h.interval_pos hpos)).monotone_l htime

theorem Polls.lookTime_of_lt (h : Polls patience) {k : Nat}
    (hk : k < patience.timeout ⌈/⌉ interval patience) (start : Instant) :
    lookTime patience start k = start + k * interval patience := by
  rw [lookTime, min_eq_left (h.mul_lt_iff.2 hk).le]

/-- The last look is made when the timeout is over. -/
theorem Polls.lookTime_of_le (h : Polls patience) {k : Nat}
    (hk : patience.timeout ⌈/⌉ interval patience ≤ k) (start : Instant) :
    lookTime patience start k = start + patience.timeout := by
  rw [lookTime, min_eq_right (not_lt.1 fun hlt => hk.not_gt (h.mul_lt_iff.1 hlt))]

theorem Polls.mem_looks_iff (h : Polls patience) {start look : Instant} :
    look ∈ looks patience start ↔
      (∃ k, k * interval patience < patience.timeout ∧ look = start + k * interval patience) ∨
        look = start + patience.timeout := by
  simp only [looks, List.mem_map, List.mem_range, Nat.lt_succ_iff, h.mul_lt_iff]
  constructor
  · rintro ⟨k, hk, rfl⟩
    rcases hk.lt_or_eq with hlt | rfl
    · exact .inl ⟨k, hlt, h.lookTime_of_lt hlt start⟩
    · exact .inr (h.lookTime_of_le le_rfl start)
  · rintro (⟨k, hk, rfl⟩ | rfl)
    · exact ⟨k, hk.le, h.lookTime_of_lt hk start⟩
    · exact ⟨_, le_rfl, h.lookTime_of_le le_rfl start⟩

/-- The clock ticks when the waiting starts, at the end of every poll interval, and at that of the
    timeout. -/
structure Ticks (patience : Patience) (start : Instant) : Prop where
  start_dvd : tick ∣ start
  pollInterval_dvd : tick ∣ patience.pollInterval
  timeout_dvd : tick ∣ patience.timeout

theorem tickFrom_of_dvd {t : Instant} (h : tick ∣ t) : tickFrom t = t := by
  obtain ⟨n, rfl⟩ := h
  have htick : 0 < tick := by decide
  rw [tickFrom, Nat.mul_add_div htick, Nat.div_eq_of_lt (Nat.sub_lt htick Nat.one_pos),
    Nat.add_zero, Nat.mul_comm]

theorem Ticks.interval_dvd {start : Instant} (h : Ticks patience start) :
    tick ∣ interval patience := by
  have hlongest : tick ∣ longestSleep := by decide
  rw [interval, Nat.min_def]
  split_ifs
  · exact h.pollInterval_dvd
  · exact hlongest

/-- The next look is at the first tick when an interval is over, or the timeout if that is
    earlier. -/
theorem nextLook_eq_tickFrom (patience : Patience) (deadline now : Instant) :
    nextLook patience.pollInterval deadline now =
      tickFrom (now + min (interval patience) (deadline - now)) := by
  rw [nextLook, wakeUp, interval, min_right_comm]

/-- The next look is an interval later, or at the end if that is earlier. -/
theorem nextLook_eq {start now : Instant} (h : Ticks patience start) (hnow : tick ∣ now) :
    nextLook patience.pollInterval (start + patience.timeout) now =
      now + min (interval patience) (start + patience.timeout - now) := by
  have hremaining : tick ∣ start + patience.timeout - now :=
    Nat.dvd_sub (Nat.dvd_add h.start_dvd h.timeout_dvd) hnow
  have hdvd : tick ∣ min (interval patience) (start + patience.timeout - now) := by
    rw [Nat.min_def]
    split_ifs
    · exact h.interval_dvd
    · exact hremaining
  rw [nextLook_eq_tickFrom, tickFrom_of_dvd (Nat.dvd_add hnow hdvd)]

theorem nextLook_lookTime (hpolls : Polls patience) (hticks : Ticks patience s.now) {k : Nat}
    (hk : k < patience.timeout ⌈/⌉ interval patience) :
    nextLook patience.pollInterval (s.now + patience.timeout) (lookTime patience s.now k) =
      lookTime patience s.now (k + 1) := by
  have hdvd : tick ∣ s.now + k * interval patience :=
    Nat.dvd_add hticks.start_dvd (Nat.dvd_mul_left_of_dvd hticks.interval_dvd k)
  rw [hpolls.lookTime_of_lt hk, nextLook_eq hticks hdvd, Nat.add_sub_add_left, Nat.add_assoc,
    ← Nat.add_min_add_left, Nat.add_sub_cancel' (hpolls.mul_lt_iff.2 hk).le, lookTime,
    Nat.succ_mul]

/-! ## Looking on time -/

/-- Only when the timeout is over the last look is made. -/
theorem Polls.lookTime_lt_iff (h : Polls patience) {start : Instant} {k : Nat} :
    lookTime patience start k < start + patience.timeout ↔
      k < patience.timeout ⌈/⌉ interval patience := by
  rw [lookTime, Nat.add_lt_add_iff_left, min_lt_iff, or_iff_left (lt_irrefl _), h.mul_lt_iff]

theorem lookTime_zero (patience : Patience) (start : Instant) :
    lookTime patience start 0 = start := by
  rw [lookTime, Nat.zero_mul, Nat.zero_min, Nat.add_zero]

/-- The looks are made on time. -/
theorem Waits.now_eq_lookTime (hpolls : Polls patience) (hticks : Ticks patience s.now)
    (h : Waits d patience s n t) : t.now = lookTime patience s.now n := by
  induction h with
  | start => exact (lookTime_zero _ _).symm
  | @again n t h hcount hnone hnow ih =>
    rw [ih] at hnow ⊢
    exact nextLook_lookTime hpolls hticks (hpolls.lookTime_lt_iff.1 hnow)

/-- Each look is made, up to the last one, unless one before it finds something. -/
theorem exists_waits_of_not_finds (hpolls : Polls patience) (hticks : Ticks patience s.now)
    (hn : n ≤ patience.timeout ⌈/⌉ interval patience) (hcount : n ≤ greatestCount)
    (hvain : ∀ k < n, finds d s (lookTime patience s.now k) = false) :
    ∃ t, Waits d patience s n t := by
  induction n with
  | zero => exact ⟨s, .start⟩
  | succ n ih =>
    obtain ⟨t, h⟩ := ih (Nat.le_of_succ_le hn) (Nat.le_of_succ_le hcount)
      fun k hk => hvain k (Nat.lt_succ_of_lt hk)
    have hnow := h.now_eq_lookTime hpolls hticks
    refine ⟨_, .again h hcount ?_ ?_⟩
    · rw [h.fetch?_eq, hnow]
      exact finds_eq_false_iff.1 (hvain n (Nat.lt_succ_self n))
    · rw [hnow]
      exact hpolls.lookTime_lt_iff.2 hn

/-- What becomes of waiting when no look finds anything. -/
def gaveUp (d : Digest) (patience : Patience) (s : Store) :
    Option (Except Error Entry) × Store :=
  (some (.error (.notFound d)),
    { (s.atTime (s.now + patience.timeout)).lookedAt d with
      log := s.log ++ [.notVisible d (UInt32.ofNat (looks patience s.now).length)] })

/-! ## Which look it is -/

/-- What is there is found by the looks since it is visible: that at the end of the interval in
    which it becomes so, and those after it. -/
theorem finds_lookTime_iff (hpolls : Polls patience) (hbytes : s.bytes? d ≠ .ok none)
    (hintime : visibleSince d s ≤ s.now + patience.timeout) {k : Nat}
    (hk : k ≤ patience.timeout ⌈/⌉ interval patience) :
    finds d s (lookTime patience s.now k) ↔
      (visibleSince d s - s.now) ⌈/⌉ interval patience ≤ k := by
  rw [finds_eq_decide hbytes, decide_eq_true_iff]
  rcases hk.lt_or_eq with hlt | rfl
  · have hpos : 0 < interval patience :=
      hpolls.interval_pos (Nat.zero_lt_of_lt (hpolls.mul_lt_iff.2 hlt))
    rw [hpolls.lookTime_of_lt hlt, ceilDiv_le_iff_le_mul hpos, Nat.mul_comm,
      Nat.sub_le_iff_le_add']
  · exact iff_of_true (by rwa [hpolls.lookTime_of_le le_rfl])
      (hpolls.ceilDiv_le (Nat.sub_le_iff_le_add'.2 hintime))

/-- What is not there, or not in time, is not found. -/
theorem finds_lookTime_eq_false (patience : Patience) (h : s.bytes? d = .ok none ∨
    s.now + patience.timeout < visibleSince d s) (k : Nat) :
    finds d s (lookTime patience s.now k) = false := by
  rw [finds_eq_false_iff, fetch?_atTime_eq]
  rcases h with hbytes | hlate
  · rw [hbytes, ite_self]
  · have hle : lookTime patience s.now k ≤ s.now + patience.timeout :=
      Nat.add_le_add_left (min_le_right _ _) _
    rw [if_neg (hle.trans_lt hlate).not_ge]

/-! ## What becomes of waiting -/

/-- The looks that can be counted, in turn. -/
theorem take_looks (patience : Patience) (start : Instant) :
    (looks patience start).take greatestCount =
      (List.range (min greatestCount (patience.timeout ⌈/⌉ interval patience + 1))).map
        (lookTime patience start) := by
  rw [looks, ← List.map_take, List.take_range]

section

variable (hpolls : Polls patience) (hticks : Ticks patience s.now)
  (hclock : s.now + patience.timeout < clockEnd)

include hpolls hticks hclock

/-- The first look that finds something is what waiting gives and leaves, if it can be counted. -/
theorem outcome_await_of_finds {k : Nat} (hk : k ≤ patience.timeout ⌈/⌉ interval patience)
    (hcount : k < greatestCount) (hvain : ∀ j < k, finds d s (lookTime patience s.now j) = false)
    (hfinds : finds d s (lookTime patience s.now k)) :
    outcome (await d patience) s = outcome (fetch d) (s.atTime (lookTime patience s.now k)) := by
  obtain ⟨t, h⟩ := exists_waits_of_not_finds hpolls hticks hk hcount.le hvain
  have hnow := h.now_eq_lookTime hpolls hticks
  rw [outcome_await, if_pos hclock, h.awaitUntil_of_found hcount, hnow]
  rw [h.fetch?_eq, hnow, Ne, ← finds_eq_false_iff, hfinds]
  simp

/-- If no look finds anything, and all of them can be counted, it ends with the last one. -/
theorem outcome_await_of_not_finds (hcount : (looks patience s.now).length ≤ greatestCount)
    (hvain : ∀ k ≤ patience.timeout ⌈/⌉ interval patience,
      finds d s (lookTime patience s.now k) = false) :
    outcome (await d patience) s = gaveUp d patience s := by
  rw [length_looks] at hcount
  obtain ⟨t, h⟩ := exists_waits_of_not_finds hpolls hticks le_rfl (Nat.le_of_succ_le hcount)
    fun k hk => hvain k hk.le
  have hnow : t.now = s.now + patience.timeout :=
    (h.now_eq_lookTime hpolls hticks).trans (hpolls.lookTime_of_le le_rfl _)
  have hnone : t.fetch? d = .ok none := by
    rw [h.fetch?_eq, h.now_eq_lookTime hpolls hticks]
    exact finds_eq_false_iff.1 (hvain _ le_rfl)
  rw [outcome_await, if_pos hclock, h.awaitUntil_of_over hcount hnone hnow.ge, hnow, gaveUp,
    length_looks]

/-- What is there, and becomes visible in time, is found by the first look since then. -/
theorem outcome_await_of_visible (hbytes : s.bytes? d ≠ .ok none)
    (hintime : visibleSince d s ≤ s.now + patience.timeout)
    (hcount : (visibleSince d s - s.now) ⌈/⌉ interval patience < greatestCount) :
    let look := lookTime patience s.now ((visibleSince d s - s.now) ⌈/⌉ interval patience)
    finds d s look ∧ outcome (await d patience) s = outcome (fetch d) (s.atTime look) := by
  intro look
  have hle := hpolls.ceilDiv_le (Nat.sub_le_iff_le_add'.2 hintime)
  have hfinds : finds d s look := (finds_lookTime_iff hpolls hbytes hintime hle).2 le_rfl
  refine ⟨hfinds, outcome_await_of_finds hpolls hticks hclock hle hcount (fun j hj => ?_) hfinds⟩
  rw [← Bool.not_eq_true, finds_lookTime_iff hpolls hbytes hintime (hj.le.trans hle)]
  exact not_le.2 hj

theorem outcome_await_of_find?_eq_some {look : Instant}
    (h : ((looks patience s.now).take greatestCount).find? (finds d s) = some look) :
    outcome (await d patience) s = outcome (fetch d) (s.atTime look) := by
  rw [take_looks, List.find?_map, Option.map_eq_some_iff] at h
  obtain ⟨k, hk, rfl⟩ := h
  obtain ⟨hfinds, hmem, hvain⟩ := List.find?_range_eq_some.1 hk
  obtain ⟨hcount, hk⟩ := lt_min_iff.1 (List.mem_range.1 hmem)
  exact outcome_await_of_finds hpolls hticks hclock (Nat.le_of_lt_succ hk) hcount
    (fun j hj => by simpa using hvain j hj) hfinds

theorem outcome_await_of_find?_eq_none (hcount : (looks patience s.now).length ≤ greatestCount)
    (h : ((looks patience s.now).take greatestCount).find? (finds d s) = none) :
    outcome (await d patience) s = gaveUp d patience s := by
  refine outcome_await_of_not_finds hpolls hticks hclock hcount fun k hk => ?_
  rw [List.take_of_length_le hcount, looks, List.find?_map, Option.map_eq_none_iff,
    List.find?_eq_none] at h
  simpa using h k (List.mem_range.2 (Nat.lt_succ_of_le hk))

end

theorem now_outcome_fetch (d : Digest) (s : Store) : (outcome (fetch d) s).2.now = s.now :=
  (looked_fetch d s).now_eq

/-- Waiting gives what the first look gives that finds something, be it the entry or an error other
    than that there is none, and leaves the store as this look does. If no look finds anything, it
    ends in not having found the entry, when the timeout is over and all looks are made. So what is
    under the digest is found at the end of the interval in which it becomes visible, or at the end
    of the timeout if that is earlier, and at once, without the clock moving, if it is visible. All
    of this as far as the looks can be counted. -/
theorem awaited_on_schedule (d : Digest) (patience : Patience) (s : Store)
    (hpolls : Polls patience) (hticks : Ticks patience s.now)
    (hclock : s.now + patience.timeout < clockEnd) :
    let counted := (looks patience s.now).take greatestCount
    (∀ look, counted.find? (finds d s) = some look →
      outcome (await d patience) s = outcome (fetch d) (s.atTime look)) ∧
    (counted.find? (finds d s) = none → (looks patience s.now).length ≤ greatestCount →
      outcome (await d patience) s = gaveUp d patience s) ∧
    ((looks patience s.now).length ≤ greatestCount →
      ∃ result, (outcome (await d patience) s).1 = some result) ∧
    (∀ look, look ∈ looks patience s.now ↔
      (∃ k, k * interval patience < patience.timeout ∧ look = s.now + k * interval patience) ∨
        look = s.now + patience.timeout) ∧
    (looks patience s.now).length = patience.timeout ⌈/⌉ interval patience + 1 ∧
    (s.bytes? d ≠ .ok none → visibleSince d s ≤ s.now →
      outcome (await d patience) s = outcome (fetch d) s) ∧
    (s.bytes? d ≠ .ok none → visibleSince d s ≤ s.now + patience.timeout →
      (visibleSince d s - s.now) ⌈/⌉ interval patience < greatestCount →
      let look := s.now +
        min (((visibleSince d s - s.now) ⌈/⌉ interval patience) * interval patience)
          patience.timeout
      finds d s look ∧ outcome (await d patience) s = outcome (fetch d) (s.atTime look) ∧
        (outcome (await d patience) s).2.now = look) ∧
    (s.bytes? d = .ok none ∨ s.now + patience.timeout < visibleSince d s →
      (looks patience s.now).length ≤ greatestCount →
      outcome (await d patience) s = gaveUp d patience s) := by
  intro counted
  have hvisible (hbytes : s.bytes? d ≠ .ok none) :=
    outcome_await_of_visible hpolls hticks hclock hbytes
  refine ⟨fun look => outcome_await_of_find?_eq_some hpolls hticks hclock,
    fun hfind hcount => outcome_await_of_find?_eq_none hpolls hticks hclock hcount hfind,
    fun hcount => ?_,
    fun _ => hpolls.mem_looks_iff, length_looks _ _, fun hbytes hsince => ?_,
    fun hbytes hintime hcount => ?_, fun hmissing hcount => ?_⟩
  · rcases hfind : counted.find? (finds d s) with _ | look
    · have hend := outcome_await_of_find?_eq_none hpolls hticks hclock hcount hfind
      exact ⟨_, congrArg Prod.fst hend⟩
    · obtain ⟨log, hlook⟩ := outcome_fetch d (s.atTime look)
      rw [outcome_await_of_find?_eq_some hpolls hticks hclock hfind, hlook]
      exact ⟨_, rfl⟩
  · have hzero : (visibleSince d s - s.now) ⌈/⌉ interval patience = 0 := by
      rw [Nat.sub_eq_zero_of_le hsince, zero_ceilDiv]
    obtain ⟨-, h⟩ := hvisible hbytes (hsince.trans (Nat.le_add_right _ _)) (by rw [hzero]; decide)
    rw [hzero, lookTime_zero] at h
    exact h
  · obtain ⟨hfinds, h⟩ := hvisible hbytes hintime hcount
    rw [h]
    exact ⟨hfinds, rfl, now_outcome_fetch _ _⟩
  · exact outcome_await_of_not_finds hpolls hticks hclock hcount
      fun k _ => finds_lookTime_eq_false patience hmissing k

/-- What becomes visible after three milliseconds is found after four by somebody who looks every
    other millisecond. -/
theorem awaited_on_schedule_settling :
    let d := Digest.of []
    let patience : Patience := ⟨.millis 2, .millis 5⟩
    let settling : Settling := ⟨.millis 3, [(d, Duration.millis 3)]⟩
    let s : Store := ⟨.memory [(d, [])], some settling, .empty, 0, []⟩
    Polls patience ∧ Ticks patience s.now ∧ s.now + patience.timeout < clockEnd ∧
      s.bytes? d ≠ .ok none ∧ visibleSince d s ≤ s.now + patience.timeout ∧
      outcome (await d patience) s = outcome (fetch d) (s.atTime (Duration.millis 4)) := by
  intro d patience settling s
  have hpolls : Polls patience := .inl (by decide)
  have hticks : Ticks patience s.now := ⟨by decide, by decide, by decide⟩
  have hclock : s.now + patience.timeout < clockEnd := by decide
  have hbytes : s.bytes? d ≠ .ok none := by simp [s, bytes?]
  have hsince : visibleSince d s = Duration.millis 3 := by
    simp [s, settling, visibleSince, visibleFrom?]
  have hvisible : visibleSince d s ≤ s.now + patience.timeout := by
    rw [hsince]
    decide
  have hcount : (visibleSince d s - s.now) ⌈/⌉ interval patience < greatestCount := by
    rw [hsince]
    decide
  obtain ⟨-, -, -, -, -, -, hfound, -⟩ := awaited_on_schedule d patience s hpolls hticks hclock
  obtain ⟨-, houtcome, -⟩ := hfound hbytes hvisible hcount
  have hlook : s.now + min (((Duration.millis 3 - s.now) ⌈/⌉ interval patience) *
      interval patience) patience.timeout = Duration.millis 4 := by decide
  rw [hsince, hlook] at houtcome
  exact ⟨hpolls, hticks, hclock, hbytes, hvisible, houtcome⟩

/-- Somebody who wants to look every thirty years and a millisecond, for that long, is woken up to
    look once more in between. -/
theorem looks_between_polls :
    let d := Digest.of []
    let patience : Patience := ⟨.millis 946080000001, .millis 946080000001⟩
    let s := inMemory none .empty 0
    Polls patience ∧ Ticks patience s.now ∧ s.now + patience.timeout < clockEnd ∧
      s.bytes? d = .ok none ∧ patience.timeout ⌈/⌉ patience.pollInterval + 1 = 2 ∧
      (outcome (await d patience) s).2.log = [.notVisible d 3] := by
  intro d patience s
  have hpolls : Polls patience := .inl (by decide)
  have hticks : Ticks patience s.now := ⟨by decide, by decide, by decide⟩
  have hclock : s.now + patience.timeout < clockEnd := by decide
  have hmissing : s.bytes? d = .ok none := rfl
  have hlength : (looks patience s.now).length = 3 := by
    rw [length_looks]
    decide
  have hcount : (looks patience s.now).length ≤ greatestCount := by
    rw [hlength]
    decide
  have hend := outcome_await_of_not_finds hpolls hticks hclock hcount
    fun k _ => finds_lookTime_eq_false patience (.inl hmissing) k
  rw [gaveUp, hlength] at hend
  refine ⟨hpolls, hticks, hclock, hmissing, by decide, ?_⟩
  rw [hend]
  rfl

end Formulary.Store
