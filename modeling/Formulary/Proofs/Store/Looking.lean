import Formulary.Proofs.Store.Outcomes

/-!
# What a look gives

Looking for an entry is deciding on the bytes that are visible under its digest, whatever they are
and whoever put them there (`lookVerdict`). Waiting for an entry gives what a look at some later
moment gives, if it does not break off (`outcome_await_cases`), and nothing is written by either.
-/

namespace Formulary.Store

/-- What visible bytes, if there are any, are taken for under a digest. -/
def lookVerdict (d : Digest) : Except Error (Option Bytes) → Except Error Entry
  | .error error => .error error
  | .ok none => .error (.notFound d)
  | .ok (some b) =>
    if Digest.of b ≠ d then .error (.doubtful d (.otherBytes (Digest.of b)))
    else (Entry.decode b).mapError .undecodable

/-- Fetching gives the verdict on what is visible, and but for events it leaves what any look
    leaves. -/
theorem outcome_fetch (d : Digest) (s : Store) :
    ∃ log, outcome (fetch d) s =
      (some (lookVerdict d (s.fetch? d)), { s.lookedAt d with log }) := by
  have hread := outcome_read d s
  rw [fetch]
  rcases hfound : s.fetch? d with error | _ | b <;> rw [hfound] at hread
  · exact ⟨(s.lookedAt d).log, outcome_bind_of_error hread _⟩
  · exact ⟨(s.lookedAt d).log, outcome_bind_of_ok hread _⟩
  · rw [outcome_bind_of_ok hread]
    dsimp only [lookVerdict]
    split_ifs
    · exact ⟨(s.lookedAt d).log ++ [.wrongBytes d (Digest.of b)], rfl⟩
    · refine ⟨(s.lookedAt d).log, ?_⟩
      rcases Entry.decode b with error | entry <;> rfl

theorem looked_fetch (d : Digest) (s : Store) : Looked s (outcome (fetch d) s).2 := by
  obtain ⟨log, h⟩ := outcome_fetch d s
  rw [h]
  exact (Looked.lookedAt s d).trans (.of_log _ log)

/-- A look just after another one gives the same and leaves the same. -/
theorem outcome_fetch_lookedAt (d : Digest) (s : Store) :
    outcome (fetch d) (s.lookedAt d) = outcome (fetch d) s := by
  rw [fetch, outcome_bind, outcome_bind, outcome_read, outcome_read, fetch?_lookedAt,
    lookedAt_lookedAt]

/-- Bytes are taken for an entry exactly if they are what it is encoded as, nest no deeper than JSON
    is read, and have the digest. -/
theorem lookVerdict_eq_ok_iff {d : Digest} {found : Except Error (Option Bytes)} {entry : Entry} :
    lookVerdict d found = .ok entry ↔
      found = .ok (some entry.encode) ∧ entry.digest = d ∧
        Entry.decode entry.encode = .ok entry := by
  constructor
  · intro h
    rcases found with error | _ | b
    · cases h
    · cases h
    · rw [lookVerdict] at h
      split_ifs at h with hd
      · rcases hdecode : Entry.decode b with error | found <;> rw [hdecode] at h
        · cases h
        · obtain rfl := Except.ok.inj h
          -- what decodes was encoded, so the bytes are no others
          obtain rfl := Entry.encode_of_decode hdecode
          exact ⟨rfl, not_not.1 hd, hdecode⟩
  · rintro ⟨rfl, rfl, hdecode⟩
    rw [lookVerdict, hdecode, if_neg fun h => h rfl]
    rfl

/-! ## What is visible -/

theorem fetch?_eq_some_iff {s : Store} {d : Digest} {b : Bytes} :
    s.fetch? d = .ok (some b) ↔ s.isVisible d ∧ s.bytes? d = .ok (some b) := by
  rw [fetch?]
  split_ifs with h <;> simp [h]

theorem fetch?_atTime {s : Store} {d : Digest} {b : Bytes} (h : s.fetch? d = .ok (some b))
    {now : Instant} (hnow : s.now ≤ now) : (s.atTime now).fetch? d = .ok (some b) := by
  obtain ⟨hvisible, hbytes⟩ := fetch?_eq_some_iff.1 h
  exact fetch?_eq_some_iff.2 ⟨((Passes.refl s).atTime hnow).isVisible hvisible, hbytes⟩

/-! ## Bytes that are not there -/

theorem bytes?_ne_notFound (s : Store) (d e : Digest) : s.bytes? d ≠ .error (.notFound e) := by
  rw [bytes?]
  rcases s.shelf with entries | path
  · simp
  · dsimp only
    rw [fileBytes?]
    split <;> simp

theorem fetch?_ne_notFound (s : Store) (d e : Digest) : s.fetch? d ≠ .error (.notFound e) := by
  rw [fetch?]
  split_ifs
  · exact s.bytes?_ne_notFound d e
  · simp

/-- A look finds no entry exactly if nothing is visible under the digest. -/
theorem lookVerdict_eq_notFound_iff {s : Store} {d e : Digest} :
    lookVerdict d (s.fetch? d) = .error (.notFound e) ↔ s.fetch? d = .ok none ∧ e = d := by
  have hother := s.fetch?_ne_notFound d e
  generalize s.fetch? d = found at hother ⊢
  rcases found with error | _ | b
  · simpa [lookVerdict] using hother
  · simp [lookVerdict, eq_comm]
  · rw [lookVerdict]
    split_ifs
    · simp
    · rcases Entry.decode b with error | entry <;> simp [Except.mapError]

/-! ## Waiting -/

theorem le_tickFrom (t : Instant) : t ≤ tickFrom t := by
  grind [tickFrom, tick, Duration.millis]

/-- Nobody wakes before they go to sleep. -/
theorem le_nextLook (pollInterval : Duration) (deadline now : Instant) :
    now ≤ nextLook pollInterval deadline now :=
  Nat.le_trans (Nat.le_add_right now _) (le_tickFrom _)

section

variable {s : Store} {d : Digest} {attempts : UInt32}

/-- A look that finds nothing is followed by another one, or by giving up at the deadline. -/
theorem awaitUntil_of_missing {e : Digest} (hcount : attempts.toNat < greatestCount)
    (h : (outcome (fetch d) s).1 = some (.error (.notFound e))) (pollInterval : Duration)
    (deadline : Instant) :
    awaitUntil d pollInterval deadline attempts s =
      if s.now < deadline then
        awaitUntil d pollInterval deadline (attempts + 1)
          ((outcome (fetch d) s).2.atTime (nextLook pollInterval deadline s.now))
      else outcome (giveUp d (attempts + 1)) (outcome (fetch d) s).2 := by
  have hfetch : (fetch d).run.run.run s = (some (.error (.notFound e)), (outcome (fetch d) s).2) :=
    Prod.ext h rfl
  rw [awaitUntil, if_pos hcount, hfetch]
  rfl

/-- Any other look is the last one. -/
theorem awaitUntil_of_found (hcount : attempts.toNat < greatestCount)
    (h : ∀ e, (outcome (fetch d) s).1 ≠ some (.error (.notFound e))) (pollInterval : Duration)
    (deadline : Instant) :
    awaitUntil d pollInterval deadline attempts s = outcome (fetch d) s := by
  rw [awaitUntil, if_pos hcount]
  split
  case h_1 e looked hfetch => exact absurd (congrArg Prod.fst hfetch) (h e)
  case h_2 => rfl

/-- There is no look that cannot be counted. -/
theorem awaitUntil_of_uncounted (hcount : ¬attempts.toNat < greatestCount)
    (pollInterval : Duration) (deadline : Instant) :
    awaitUntil d pollInterval deadline attempts s = (none, s) := by
  rw [awaitUntil, if_neg hcount]

end

/-- Waiting is looking again and again, at later moments. -/
theorem passes_awaitUntil (d : Digest) (pollInterval : Duration) (deadline : Instant)
    (attempts : UInt32) (s : Store) :
    Passes s (awaitUntil d pollInterval deadline attempts s).2 := by
  have hlook (s : Store) : Looked s ((fetch d).run.run.run s).2 := looked_fetch d s
  fun_induction awaitUntil d pollInterval deadline attempts s with
  | case1 attempts s hcount e looked hfetch hnow ih =>
    have hlooked := hlook s
    rw [hfetch] at hlooked
    refine (hlooked.toPasses.atTime ?_).trans ih
    exact Nat.le_trans (Nat.le_of_eq hlooked.now_eq) (le_nextLook _ _ _)
  | case2 attempts s hcount e looked hfetch hnow =>
    have hlooked := hlook s
    have hgiveUp : Observes (giveUp d (attempts + 1)) := (Observes.emit _).bind fun _ => .throw _
    rw [hfetch] at hlooked
    exact hlooked.toPasses.trans (hgiveUp looked)
  | case3 attempts s hcount outcome => exact (hlook s).toPasses
  | case4 attempts s hcount => exact .refl s

/-- Waiting writes nothing, whatever comes of it. -/
theorem observes_await (d : Digest) (patience : Patience) : Observes (await d patience) :=
  (Observes.later _).bind fun _ s => passes_awaitUntil d _ _ _ s

/-- If the waiting does not break off the look that ends it is made at some moment from now on. -/
theorem awaitUntil_cases (d : Digest) (pollInterval : Duration) (deadline : Instant)
    (attempts : UInt32) (s : Store) :
    (awaitUntil d pollInterval deadline attempts s).1 = none ∨
    ∃ now, s.now ≤ now ∧ (awaitUntil d pollInterval deadline attempts s).1 =
      some (lookVerdict d ((s.atTime now).fetch? d)) := by
  have hnow (s : Store) : s.atTime s.now = s := rfl
  have hlook (s : Store) : ((fetch d).run.run.run s).1 = some (lookVerdict d (s.fetch? d)) := by
    obtain ⟨log, h⟩ := outcome_fetch d s
    exact congrArg Prod.fst h
  have hlooked (s : Store) : Looked s ((fetch d).run.run.run s).2 := looked_fetch d s
  fun_induction awaitUntil d pollInterval deadline attempts s with
  | case1 attempts s hcount e looked hfetch hdeadline ih =>
    -- what is found then depends on the moment, and not on what was forgotten in this look
    refine ih.imp id fun ⟨now, hle, h⟩ => ?_
    have hpasses := hlooked s
    rw [hfetch] at hpasses
    have hlater := hpasses.toPasses.atTime (Nat.le_trans (Nat.le_of_eq hpasses.now_eq)
      (le_nextLook pollInterval deadline s.now))
    rw [hlater.fetch?_atTime hle] at h
    exact ⟨now, Nat.le_trans hlater.now_le hle, h⟩
  | case2 attempts s hcount e looked hfetch =>
    have hverdict := hlook s
    rw [hfetch] at hverdict
    obtain ⟨hnone, -⟩ := lookVerdict_eq_notFound_iff.1 (Option.some.inj hverdict).symm
    refine .inr ⟨s.now, Nat.le_refl _, ?_⟩
    rw [hnow, hnone]
    rfl
  | case3 attempts s => exact .inr ⟨s.now, Nat.le_refl _, hlook s⟩
  | case4 attempts s => exact .inl rfl

/-- Waiting is looking until the deadline, if this can be told. -/
theorem outcome_await (d : Digest) (patience : Patience) (s : Store) :
    outcome (await d patience) s =
      if s.now + patience.timeout < clockEnd then
        awaitUntil d patience.pollInterval (s.now + patience.timeout) 0 s
      else (none, s) := by
  have hlater := @outcome_later Error patience.timeout s
  rw [await]
  split_ifs at hlater ⊢
  · rw [outcome_bind_of_ok hlater]
    rfl
  · rw [outcome_bind_of_none hlater]

/-- Whoever waits gets what a look at some moment from now on gives, unless the waiting breaks
    off. -/
theorem outcome_await_cases (d : Digest) (patience : Patience) (s : Store) :
    (outcome (await d patience) s).1 = none ∨
    ∃ now, s.now ≤ now ∧
      (outcome (await d patience) s).1 = some (lookVerdict d ((s.atTime now).fetch? d)) := by
  rw [outcome_await]
  split_ifs
  · exact awaitUntil_cases d _ _ 0 s
  · exact .inl rfl

/-- Who finds something at once does not wait. -/
theorem outcome_await_of_found {d : Digest} {patience : Patience} {s : Store}
    (hclock : s.now + patience.timeout < clockEnd) (h : s.fetch? d ≠ .ok none) :
    outcome (await d patience) s = outcome (fetch d) s := by
  rw [outcome_await, if_pos hclock]
  refine awaitUntil_of_found (by decide) (fun e he => h ?_) _ _
  obtain ⟨log, hfetch⟩ := outcome_fetch d s
  rw [hfetch] at he
  exact (lookVerdict_eq_notFound_iff.1 (Option.some.inj he)).1

end Formulary.Store
