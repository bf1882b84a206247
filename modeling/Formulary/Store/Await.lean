import Formulary.Store

/-!
# Waiting for entries

An entry that is not visible yet may become so. `await` looks for it at once, then again and again
after the poll interval, and a last time when the timeout is over; it gives whatever the first look
gives that finds something, be it the entry or a reason not to trust it. No sleep lasts longer than
`longestSleep`, after which there is another look.

The looks are counted in a word of 32 bits, and waiting breaks off before a look that cannot be
counted any more. So it comes to an end, whether the clock moves between two looks or not.
-/

namespace Formulary.Store

/-- What the clock of a waiting store ticks in. -/
def tick : Duration := .millis 1

/-- The first tick at or after a moment. -/
def tickFrom (t : Instant) : Instant :=
  (t + (tick - 1)) / tick * tick

/-- How long one sleep lasts at most: thirty years. -/
def longestSleep : Duration := .secs (30 * 365 * 86400)

/-- When somebody wakes who goes to sleep for some time. -/
def wakeUp (now : Instant) (d : Duration) : Instant :=
  tickFrom (now + min d longestSleep)

/-- When to look next: after the poll interval, or at the deadline if that is earlier. -/
def nextLook (pollInterval : Duration) (deadline now : Instant) : Instant :=
  wakeUp now (min pollInterval (deadline - now))

/-- The store at a later moment. -/
def atTime (s : Store) (t : Instant) : Store :=
  { s with now := t }

/-- The greatest number of looks that can be counted. -/
def greatestCount : Nat := UInt32.size - 1

theorem toNat_add_one {attempts : UInt32} (h : attempts.toNat < greatestCount) :
    (attempts + 1).toNat = attempts.toNat + 1 := by
  rw [UInt32.toNat_add, UInt32.toNat_one]
  exact Nat.mod_eq_of_lt (Nat.add_lt_of_lt_sub h)

/-- Stops to look for an entry after so many looks. -/
def giveUp (d : Digest) (attempts : UInt32) : Action Entry := do
  emit (.notVisible d attempts)
  throw (.notFound d)

/-- Looks for an entry until the deadline, `attempts` looks having been made before. Breaks off if
    another one cannot be counted. -/
def awaitUntil (d : Digest) (pollInterval : Duration) (deadline : Instant) (attempts : UInt32)
    (s : Store) : Option (Except Error Entry) × Store :=
  if attempts.toNat < greatestCount then
    match (fetch d).run.run.run s with
    | (some (.error (.notFound _)), looked) =>
      if s.now < deadline then
        awaitUntil d pollInterval deadline (attempts + 1)
          (looked.atTime (nextLook pollInterval deadline s.now))
      else
        (giveUp d (attempts + 1)).run.run.run looked
    | outcome => outcome
  else (none, s)
termination_by greatestCount - attempts.toNat
decreasing_by
  have := toNat_add_one ‹attempts.toNat < greatestCount›
  omega

/-- The entry under a digest, as soon as it is visible. -/
def await (d : Digest) (patience : Patience) : Action Entry := do
  let deadline ← later patience.timeout
  ExceptT.mk (OptionT.mk (awaitUntil d patience.pollInterval deadline 0))

end Formulary.Store
