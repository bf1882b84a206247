import Formulary.Proofs.Registry.Clock
import Formulary.Proofs.Store.Attempts
import Formulary.Proofs.Store.Operations

/-!
# What valid settings let run out

Settings are valid with delays and timeouts of any length. So waiting and writing may ask for a
moment that the clock does not reach, and both break off then; and somebody who waits may look so
often that the looks cannot be counted, which breaks the waiting off as well. It is known when: the
clock runs out on waiting for anything if it ends before the timeout does, and on writing something
new if it ends before the delay does (`outcome_write_eq_none_iff`); the looks run out if as many are
made in vain as are counted in a word of 32 bits (`outcome_await_eq_none_iff`), which are all that
are made where there is nothing to be found if they are no more (`lookCount`).

* `waits_in_range`: all of this, for valid settings;
* `waits_out_of_range`: valid settings under which each of the three runs out.
-/

namespace Formulary

/-- Valid settings ask for another look after some time, if they ask for another one at all. -/
theorem Settings.polls_of_validate {settings : Settings} (h : settings.validate = .ok ()) :
    Store.Polls settings.patience := by
  rw [validate] at h
  split_ifs at h with _ _ hpoll
  rcases Nat.eq_zero_or_pos settings.patience.pollInterval with hzero | hpos
  · exact .inr (Nat.eq_zero_of_not_pos fun htimeout => hpoll ⟨htimeout, hzero⟩)
  · exact .inl hpos

namespace Store

variable {d : Digest} {patience : Patience} {s : Store}

/-! ## The clock -/

theorem not_settlesInTime_iff :
    ¬s.SettlesInTime ↔ ∃ delay ∈ s.delay?, clockEnd ≤ s.now + delay := by
  simp [settlesInTime_iff]

/-! ## Valid settings -/

/-- In a store with the delay of valid settings, at any time: waiting breaks off exactly if the
    clock ends before the timeout does, or as many looks were made in vain as can be counted; and
    writing exactly if something new is written and the clock ends before the delay does. `Waits`
    counts the looks as `awaitUntil` does; there are never more than `lookCount`, and so many if
    there is nothing to be found, as is told at the end, unless these are more than can be counted.
    They can be counted if the timeout leaves no time for more. -/
theorem waits_in_range (settings : Settings) (hvalid : settings.validate = .ok ()) (s : Store)
    (hdelay : s.delay? = settings.settleDelay) (d : Digest) :
    let patience := settings.patience
    ((outcome (await d patience) s).1 = none ↔
      clockEnd ≤ s.now + patience.timeout ∨ ∃ t, Waits d patience s greatestCount t) ∧
    (∀ b, (outcome (write d b) s).1 = none ↔
      (outcome (writeToShelf d b) s).1 = some (.ok true) ∧
        ∃ delay ∈ settings.settleDelay, clockEnd ≤ s.now + delay) ∧
    (∀ n t, Waits d patience s n t →
      n ≤ greatestCount ∧ n + 1 ≤ lookCount patience s.now ∧
        awaitUntil d patience.pollInterval (s.now + patience.timeout) 0 s =
          awaitUntil d patience.pollInterval (s.now + patience.timeout) (UInt32.ofNat n) t) ∧
    (s.bytes? d = .ok none →
      (∀ n, n ≤ greatestCount → n + 1 ≤ lookCount patience s.now →
        ∃ t, Waits d patience s n t) ∧
      (s.now + patience.timeout < clockEnd →
        if lookCount patience s.now ≤ greatestCount then
          ∃ now, outcome (await d patience) s =
            (some (.error (.notFound d)), { (s.atTime now).lookedAt d with
              log := s.log ++ [.notVisible d (UInt32.ofNat (lookCount patience s.now))] })
        else (outcome (await d patience) s).1 = none)) ∧
    (patience.timeout ≤ (greatestCount - 1) * interval patience ∨
        patience.timeout ≤ (greatestCount - 2) * tick →
      lookCount patience s.now ≤ greatestCount) := by
  intro patience
  have hpolls : Polls patience := Settings.polls_of_validate hvalid
  refine ⟨outcome_await_eq_none_iff d patience s, fun b => ?_,
    fun n t h => ⟨h.le_greatestCount, h.lt_lookCount hpolls, h.awaitUntil_eq⟩,
    fun hmissing => ⟨fun n hn hlooks => exists_waits hpolls hmissing hlooks hn, fun hclock => ?_⟩,
    fun hfew => lookCount_le_greatestCount hpolls hfew s.now⟩
  · rw [outcome_write_eq_none_iff, not_settlesInTime_iff, hdelay]
  · rw [outcome_await, if_pos hclock]
    exact awaitUntil_of_nowhere hpolls hmissing

/-- Somebody who wants to look every 50 milliseconds, for five seconds, looks 101 times for what is
    not there, also if the clock does not tick when this starts. -/
theorem waits_in_range_between_ticks :
    let settings : Settings :=
      ⟨32, .memory, "", some (.millis 20), ⟨.millis 50, .secs 5⟩, "info"⟩
    let s : Store := .inMemory settings.settleDelay .empty 1
    let d := Digest.of []
    settings.validate = .ok () ∧ s.delay? = settings.settleDelay ∧
      (outcome (write d []) s).1 ≠ none ∧
      (∃ t, Waits d settings.patience s 100 t) ∧
      (∀ n t, Waits d settings.patience s n t → n + 1 ≤ 101) ∧
      ∃ now, outcome (await d settings.patience) s =
        (some (.error (.notFound d)),
          { (s.atTime now).lookedAt d with log := [.notVisible d 101] }) := by
  intro settings s d
  have hvalid : settings.validate = .ok () := by decide
  have hdelay : s.delay? = settings.settleDelay := rfl
  obtain ⟨-, hwrite, hmost, hall, -⟩ := waits_in_range settings hvalid s hdelay d
  have hcount : lookCount settings.patience s.now = 101 := by decide +kernel
  obtain ⟨hreached, hend⟩ := hall rfl
  have hgiveUp := hend (by decide)
  rw [hcount] at hmost hreached hgiveUp
  rw [if_pos (by decide)] at hgiveUp
  refine ⟨hvalid, hdelay, fun h => ?_, hreached 100 (by decide) (Nat.le_refl _),
    fun n t h => (hmost n t h).2.1, hgiveUp⟩
  obtain ⟨-, delay, hmem, hlate⟩ := (hwrite []).1 h
  obtain rfl := Option.some.inj hmem
  exact absurd hlate (by decide)

/-- The longest time that can be written takes the end of waiting, or the moment when something
    becomes visible, beyond the end of the clock. Somebody who looks every millisecond, for almost
    fifty days, at what is not there breaks off as well, long before the end of the clock, for the
    looks cannot be counted. -/
theorem waits_out_of_range :
    let longest : Duration := .secs 18446744073709551615
    let patient : Settings := ⟨32, .memory, "", none, ⟨.millis 50, longest⟩, "info"⟩
    let slow : Settings := ⟨32, .memory, "", some longest, ⟨.millis 50, .secs 5⟩, "info"⟩
    let eager : Settings := ⟨32, .memory, "", none, ⟨.millis 1, .millis 4294967296⟩, "info"⟩
    let store (settings : Settings) : Store := .inMemory settings.settleDelay .empty 0
    let d := Digest.of []
    Duration.ofText "18446744073709551615s" = .ok longest ∧
      (patient.validate = .ok () ∧ (outcome (await d patient.patience) (store patient)).1 = none) ∧
      (slow.validate = .ok () ∧ (outcome (write d []) (store slow)).1 = none) ∧
      eager.validate = .ok () ∧ (store eager).now + eager.patience.timeout < clockEnd ∧
        (outcome (await d eager.patience) (store eager)).1 = none := by
  intro longest patient slow eager store d
  have heager : eager.validate = .ok () := by decide
  have hpolls := Settings.polls_of_validate heager
  have hcount : greatestCount < lookCount eager.patience (store eager).now := by decide +kernel
  exact ⟨by decide +kernel,
    ⟨by decide, (outcome_await_eq_none_iff _ _ _).2 (.inl (by decide))⟩,
    ⟨by decide, (outcome_write_eq_none_iff _ _ _).2 ⟨rfl, not_settlesInTime_iff.2
      ⟨longest, rfl, by decide⟩⟩⟩,
    heager, by decide,
    (outcome_await_eq_none_iff _ _ _).2 (.inr (exists_waits hpolls rfl hcount le_rfl))⟩

end Store

end Formulary
