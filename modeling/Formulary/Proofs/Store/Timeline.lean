import Formulary.Proofs.Store.Operations

/-!
# When what is written becomes visible

Operations are made on a store that settles, one after the other, and time passes between them
(`Timeline`). What was under a digest at the start is visible all the time; what is written there
first becomes visible when the delay is over since then, whatever is written there again, and stays
so (`visible_from_first_write`). The store itself only knows when bytes become visible, and forgets
it when it is looked at under their digest after that, be it that they are read or that all digests
are listed. So this is told by the operations that there have been (`Tells`).
-/

namespace Formulary.Store

/-! ## Runs -/

/-- Time has passed, and nobody has touched what the store holds or remembers. The rest of the disk
    may be different, and so may the log. -/
structure Ages (s t : Store) : Prop where
  undisturbed : t.Undisturbed
  settling_eq : t.settling = s.settling
  now_le : s.now ≤ t.now
  bytes?_eq : t.bytes? = s.bytes?

theorem Ages.delay?_eq {s t : Store} (h : Ages s t) : t.delay? = s.delay? := by
  rw [delay?, delay?, h.settling_eq]

theorem Ages.visibleFrom?_eq {s t : Store} (h : Ages s t) : t.visibleFrom? = s.visibleFrom? := by
  funext d
  rw [visibleFrom?, visibleFrom?, h.settling_eq]

/-- Time that passes does not disturb a store. -/
theorem Undisturbed.ages_atTime {s : Store} (hs : s.Undisturbed) {now : Instant}
    (hnow : s.now ≤ now) : Ages s (s.atTime now) :=
  ⟨hs.of_eq rfl rfl, rfl, hnow, rfl⟩

/-- A run from a store to another one, with the operations so far, last one first, each with the
    store that it was made on. -/
inductive Timeline (s : Store) : List (Store × Operation) → Store → Prop
  | start : Timeline s [] s
  | age {past : List (Store × Operation)} {t u : Store} (h : Timeline s past t) (hu : Ages t u) :
      Timeline s past u
  | operate {past : List (Store × Operation)} {t : Store} (h : Timeline s past t)
      (operation : Operation) (hanswers : operation.answer? t ≠ none) :
      Timeline s ((t, operation) :: past) (operation.after t)

/-- When something was written under a digest first, and what. -/
def firstWrite? (d : Digest) : List (Store × Operation) → Option (Instant × Bytes)
  | [] => none
  | (t, operation) :: past =>
    (firstWrite? d past).or ((operation.bytesFor? d).map fun b => (t.now, b))

theorem firstWrite?_append (d : Digest) (more past : List (Store × Operation)) :
    firstWrite? d (more ++ past) = (firstWrite? d past).or (firstWrite? d more) := by
  induction more with
  | nil => simp [firstWrite?]
  | cons p more ih => rw [List.cons_append, firstWrite?, firstWrite?, ih, Option.or_assoc]

/-! ## What a run tells -/

/-- When what is under a digest becomes visible after a run, if it was not there at the start. -/
def start? (s : Store) (delay : Duration) (past : List (Store × Operation)) (d : Digest) :
    Option Instant :=
  if s.bytes? d = .ok none then (firstWrite? d past).map fun p => p.1 + delay else none

/-- The operations since the start tell what is in the store and when it becomes visible, but of
    what is visible already the store need not know. -/
structure Tells (s : Store) (delay : Duration) (past : List (Store × Operation)) (t : Store) :
    Prop where
  undisturbed : t.Undisturbed
  delay?_eq : t.delay? = some delay
  bytes?_eq : ∀ d, t.bytes? d =
    if s.bytes? d = .ok none then .ok ((firstWrite? d past).map Prod.snd) else s.bytes? d
  visibleFrom? : ∀ d, t.visibleFrom? d = start? s delay past d ∨
    t.visibleFrom? d = none ∧ ∃ start ∈ start? s delay past d, start ≤ t.now
  written_le : ∀ d, ∀ first ∈ firstWrite? d past, first.1 ≤ t.now

variable {s t u : Store} {delay : Duration} {past more : List (Store × Operation)}

namespace Tells

theorem age (h : Tells s delay past t) (hu : Ages t u) : Tells s delay past u := by
  refine ⟨hu.undisturbed, hu.delay?_eq.trans h.delay?_eq, fun d => ?_, fun d => ?_,
    fun d first hfirst => Nat.le_trans (h.written_le d first hfirst) hu.now_le⟩
  · rw [hu.bytes?_eq, h.bytes?_eq]
  · rw [hu.visibleFrom?_eq]
    refine (h.visibleFrom? d).imp id fun ⟨hnone, start, hstart, hle⟩ => ?_
    exact ⟨hnone, start, hstart, Nat.le_trans hle hu.now_le⟩

theorem bytes?_eq_none_iff (h : Tells s delay past t) {d : Digest} :
    t.bytes? d = .ok none ↔ s.bytes? d = .ok none ∧ firstWrite? d past = none := by
  rw [h.bytes?_eq]
  split_ifs with hs <;> simp [hs]

/-- What is written where there is nothing is written first. -/
theorem start?_of_isFresh {operation : Operation} (h : Tells s delay past t) {d : Digest}
    (hd : IsFresh t operation d) :
    start? s delay ((t, operation) :: past) d = some (t.now + delay) := by
  obtain ⟨hs, hfirst⟩ := h.bytes?_eq_none_iff.1 hd.bytes?_eq
  obtain ⟨b, hb⟩ := Option.isSome_iff_exists.1 hd.isSome
  rw [start?, if_pos hs, firstWrite?, hfirst, hb]
  rfl

/-- What is written where there is something is not. -/
theorem start?_of_not_isFresh {operation : Operation} (h : Tells s delay past t) {d : Digest}
    (hd : ¬IsFresh t operation d) :
    start? s delay ((t, operation) :: past) d = start? s delay past d := by
  rw [start?, start?]
  split_ifs with hs
  · rw [firstWrite?]
    rcases hfirst : firstWrite? d past with _ | w
    · have hnone : operation.bytesFor? d = none := by
        refine Option.not_isSome_iff_eq_none.1 fun hsome => hd ⟨?_, hsome⟩
        exact h.bytes?_eq_none_iff.2 ⟨hs, hfirst⟩
      rw [hnone]
      rfl
    · rfl
  · rfl

/-- Each step is told of by its operation. -/
theorem operate {operation : Operation} (h : Tells s delay past t)
    (hstep : Step delay t operation u) : Tells s delay ((t, operation) :: past) u := by
  refine ⟨hstep.undisturbed, hstep.delay?_eq, fun d => ?_, fun d => ?_, fun d first hfirst => ?_⟩
  · rw [hstep.bytes?_eq, firstWrite?]
    split_ifs with ht hs hs
    -- nothing was there, so what is written now is the first
    · obtain ⟨-, hfirst⟩ := h.bytes?_eq_none_iff.1 ht
      rw [hfirst, Option.none_or, Option.map_map]
      exact congrArg Except.ok Option.map_id'.symm
    · exact absurd (h.bytes?_eq_none_iff.1 ht).1 hs
    -- something was written before, and it stays the first
    · obtain ⟨w, hfirst⟩ := Option.ne_none_iff_exists'.1 fun hfirst =>
        ht (h.bytes?_eq_none_iff.2 ⟨hs, hfirst⟩)
      rw [h.bytes?_eq, if_pos hs, hfirst]
      rfl
    · rw [h.bytes?_eq, if_neg hs]
  -- only under a fresh digest does the store learn a new start
  · by_cases hd : IsFresh t operation d
    · rw [hstep.visibleFrom?_of_isFresh d hd, h.start?_of_isFresh hd]
      exact .inl rfl
    · rw [h.start?_of_not_isFresh hd, hstep.now_eq]
      rcases hstep.visibleFrom?_of_not_isFresh d hd with hsame | ⟨hnone, start, hstart, hle⟩
      · rw [hsame]
        exact h.visibleFrom? d
      · -- what is forgotten now was known before
        rcases h.visibleFrom? d with hknown | ⟨hnone', -⟩
        · exact .inr ⟨hnone, start, hknown ▸ hstart, hle⟩
        · simp [hnone'] at hstart
  · rw [hstep.now_eq]
    rw [firstWrite?, Option.mem_def, Option.or_eq_some_iff] at hfirst
    rcases hfirst with hfirst | ⟨-, hfirst⟩
    · exact h.written_le d first hfirst
    · obtain ⟨b, -, rfl⟩ := Option.map_eq_some_iff.1 hfirst
      exact Nat.le_refl _

/-- In the beginning nothing has to settle. -/
theorem start (hs : s.Undisturbed) (hsettling : s.settling = some ⟨delay, []⟩) :
    Tells s delay [] s := by
  refine ⟨hs, by rw [delay?, hsettling]; rfl, fun d => ?_, fun d => .inl ?_, fun d => nofun⟩
  · split_ifs with hd
    · exact hd
    · rfl
  · rw [Store.visibleFrom?, hsettling, start?]
    split_ifs <;> rfl

/-- The run goes on. -/
theorem extend (h : Tells s delay past t) (hmore : Timeline t more u) :
    Tells s delay (more ++ past) u ∧ t.now ≤ u.now := by
  induction hmore with
  | start => exact ⟨h, Nat.le_refl _⟩
  | age _ hu ih => exact ⟨ih.1.age hu, ih.2.trans hu.now_le⟩
  | operate _ operation hanswers ih =>
    have hstep := ih.1.undisturbed.step_after ih.1.delay?_eq hanswers
    exact ⟨ih.1.operate hstep, ih.2.trans (Nat.le_of_eq hstep.now_eq.symm)⟩

/-- What is under a digest is visible when the moment has come that the operations tell. -/
theorem isVisible_iff (h : Tells s delay past t) {d : Digest} :
    t.isVisible d ↔ ∀ start ∈ start? s delay past d, start ≤ t.now := by
  rw [Store.isVisible_iff]
  rcases h.visibleFrom? d with hknown | ⟨hnone, start, hstart, hle⟩
  · rw [hknown]
  · rw [hnone, Option.mem_def.1 hstart]
    simpa using hle

/-- Without a delay everything is visible at once. -/
theorem isVisible_of_zero (h : Tells s 0 past t) (d : Digest) : t.isVisible d := by
  refine h.isVisible_iff.2 fun start hstart => ?_
  rw [start?] at hstart
  split_ifs at hstart
  · obtain ⟨first, hfirst, rfl⟩ := Option.map_eq_some_iff.1 hstart
    exact h.written_le d first hfirst
  · simp at hstart

/-- What was there before the timeline is visible all along. -/
theorem fetch?_of_held (h : Tells s delay past t) {d : Digest} {b : Bytes}
    (hd : s.bytes? d = .ok (some b)) : t.fetch? d = .ok (some b) := by
  refine fetch?_eq_some_iff.2 ⟨h.isVisible_iff.2 ?_, ?_⟩
  · simp [start?, hd]
  · rw [h.bytes?_eq, hd, if_neg (by simp)]

/-- What came in the timeline is visible after the delay, from the first write on. -/
theorem fetch?_of_first (h : Tells s delay past t) {d : Digest} (hd : s.bytes? d = .ok none)
    {w : Instant} {b : Bytes} (hfirst : firstWrite? d past = some (w, b)) :
    t.fetch? d = .ok (if w + delay ≤ t.now then some b else none) := by
  have hvisible : t.isVisible d ↔ w + delay ≤ t.now := by
    rw [h.isVisible_iff, start?, if_pos hd, hfirst]
    simp
  rw [fetch?, h.bytes?_eq, if_pos hd, hfirst]
  simp only [hvisible]
  split_ifs <;> rfl

/-- What was never written is not found. -/
theorem fetch?_of_never (h : Tells s delay past t) {d : Digest} (hd : s.bytes? d = .ok none)
    (hnever : firstWrite? d past = none) : t.fetch? d = .ok none := by
  rw [fetch?, h.bytes?_eq, if_pos hd, hnever]
  split_ifs <;> rfl

/-- What is visible stays so. -/
theorem fetch?_of_later (h : Tells s delay past t) (hu : Tells s delay (more ++ past) u)
    (hnow : t.now ≤ u.now) {d : Digest} {b : Bytes} (hd : t.fetch? d = .ok (some b)) :
    u.fetch? d = .ok (some b) := by
  by_cases hs : s.bytes? d = .ok none
  · rcases hfirst : firstWrite? d past with _ | ⟨w, c⟩
    · simp [h.fetch?_of_never hs hfirst] at hd
    · rw [h.fetch?_of_first hs hfirst] at hd
      split_ifs at hd with hle
      · -- it was written first before, so it still is
        have hlater : firstWrite? d (more ++ past) = some (w, c) := by
          rw [firstWrite?_append, hfirst, Option.some_or]
        rw [hu.fetch?_of_first hs hlater, if_pos (hle.trans hnow)]
        exact hd
      · simp at hd
  · obtain ⟨-, hbytes⟩ := fetch?_eq_some_iff.1 hd
    rw [h.bytes?_eq, if_neg hs] at hbytes
    exact hu.fetch?_of_held hbytes

end Tells

/-! ## What is told of a digest -/

/-- Whatever is asked of the store, the bytes are visible under the digest, or none are. -/
structure Shows (t : Store) (d : Digest) (found : Option Bytes) : Prop where
  read : (Operation.read d).answer? t = some (.ok found)
  holds : (Operation.holds d).answer? t = some (.ok found.isSome)
  fetch : (Operation.fetch d).answer? t = some (lookVerdict d (.ok found))
  digests : ∃ ds, Operation.digests.answer? t = some (.ok ds) ∧ Digest.Increasing ds ∧
    (d ∈ ds ↔ found.isSome)

theorem Shows.fetch?_eq {d : Digest} {found : Option Bytes} (h : Shows t d found) :
    t.fetch? d = .ok found := by
  have hread := h.read
  rw [Operation.answer?, Operation.run, outcome_read] at hread
  exact Option.some.inj hread

theorem Undisturbed.shows (ht : t.Undisturbed) {d : Digest} {found : Option Bytes}
    (h : t.fetch? d = .ok found) : Shows t d found := by
  refine ⟨?_, ?_, ?_, ?_⟩
  · rw [Operation.answer?, Operation.run, outcome_read, h]
  · rw [Operation.answer?, Operation.run, outcome_holds, h]
    rfl
  · obtain ⟨log, hfetch⟩ := outcome_fetch d t
    rw [Operation.answer?, Operation.run, hfetch, h]
  · obtain ⟨ds, log, hlisted, hincreasing, hmem⟩ := ht.outcome_shelfDigests
    refine ⟨ds.filter t.isVisible, congrArg Prod.fst (outcome_digests hlisted),
      hincreasing.filter _, ?_⟩
    rw [List.mem_filter, hmem]
    rw [fetch?] at h
    split_ifs at h with hvisible
    · rw [h]
      cases found <;> simp [hvisible]
    · obtain rfl := Except.ok.inj h
      simp [hvisible]

/-- Over any run of operations that are answered, what was under a digest at the start is visible
    all the time, and so is nothing under a digest that nothing was written under. What was written
    first where there was nothing is visible exactly when the delay is over since then. What is
    visible stays so. Without a delay each operation does what it does to the store without
    settling. Only a write of something new is not answered, if the end of the delay cannot be
    told. -/
theorem visible_from_first_write (hs : s.Undisturbed) (hsettling : s.settling = some ⟨delay, []⟩)
    (h : Timeline s past t) :
    (∀ d, (∃ b, s.bytes? d = .ok (some b) ∧ Shows t d (some b)) ∨
      s.bytes? d = .ok none ∧ match firstWrite? d past with
        | some (w, b) => Shows t d (if w + delay ≤ t.now then some b else none)
        | none => Shows t d none) ∧
    (∀ more u, Timeline t more u → ∀ d b, Shows t d (some b) → Shows u d (some b)) ∧
    (delay = 0 → ∀ operation : Operation, operation.answer? t ≠ none →
      outcome operation.run t.inner = (operation.answer? t, (operation.after t).inner)) ∧
    ∀ operation : Operation, operation.answer? t = none ↔
      (∃ d, IsFresh t operation d) ∧ clockEnd ≤ t.now + delay := by
  obtain ⟨htells, -⟩ := (Tells.start hs hsettling).extend h
  rw [List.append_nil] at htells
  refine ⟨fun d => ?_, fun more u hmore d b hshows => ?_, fun hzero operation hanswers => ?_,
    fun operation => ?_⟩
  · obtain ⟨_ | b, hd⟩ := hs.exists_bytes?_eq d
    · refine .inr ⟨hd, ?_⟩
      rcases hfirst : firstWrite? d past with _ | ⟨w, b⟩
      · exact htells.undisturbed.shows (htells.fetch?_of_never hd hfirst)
      · exact htells.undisturbed.shows (htells.fetch?_of_first hd hfirst)
    · exact .inl ⟨b, hd, htells.undisturbed.shows (htells.fetch?_of_held hd)⟩
  · obtain ⟨hlater, hnow⟩ := htells.extend hmore
    exact hlater.undisturbed.shows (htells.fetch?_of_later hlater hnow hshows.fetch?_eq)
  · subst hzero
    exact operation.mirrors htells.isVisible_of_zero hanswers
  · cases htells.undisturbed.happens htells.delay?_eq operation with
    | answers houtcome hstep hclock =>
      rw [Operation.answer?, houtcome]
      refine ⟨nofun, fun ⟨⟨d, hd⟩, hend⟩ => ?_⟩
      exact absurd (hclock d hd) (Nat.not_lt.2 hend)
    | breaksOff hnone hfresh hclock => exact ⟨fun _ => ⟨⟨_, hfresh⟩, hclock⟩, fun _ => hnone⟩

/-- In a folder whose store takes five nanoseconds to settle, what is written at the start is not
    visible after four of these, but after five. When it is read then the store forgets since when
    it is visible, and it stays so when other bytes are written under the digest. -/
theorem visible_from_first_write_in_folder :
    let s : Store :=
      ⟨.folder "/entries", some ⟨5, []⟩, ⟨[], [(["entries"], .folder)], fun _ => none⟩, 0, []⟩
    let d := Digest.of []
    let t := (Operation.write d [1]).after s
    let u := (Operation.read d).after (t.atTime 5)
    t.visibleFrom? d = some 5 ∧ Shows (t.atTime 4) d none ∧ Shows (t.atTime 5) d (some [1]) ∧
      u.visibleFrom? d = none ∧ Shows ((Operation.write d [2]).after u) d (some [1]) := by
  intro s d t u
  have hfolder : Tidy s.disk "/entries" ["entries"] := tidy_only
  have hs : s.Undisturbed := .folder rfl hfolder
  have hd : s.bytes? d = .ok none := by
    refine hfolder.leadsTo.fileBytes?_of_missing ?_
    simp [s, Disk.find?, fileIn, List.lookup_cons]
  have hanswers : (Operation.write d [1]).answer? s ≠ none := by
    obtain ⟨-, -, -, hend⟩ := visible_from_first_write hs rfl .start
    exact fun hnone => absurd ((hend _).1 hnone).2 (by decide)
  have hrun : Timeline s [(s, .write d [1])] t := Timeline.start.operate _ hanswers
  have hstep := hs.step_after rfl hanswers
  have hnow : t.now = 0 := hstep.now_eq
  have hstart : t.visibleFrom? d = some 5 :=
    hstep.visibleFrom?_of_isFresh d ⟨hd, by simp [Operation.bytesFor?]⟩
  have hwait (now : Instant) : Timeline s [(s, .write d [1])] (t.atTime now) :=
    hrun.age (hstep.undisturbed.ages_atTime (hnow ▸ Nat.zero_le now))
  -- whatever the time, the first write is the one at zero
  have hfirst : firstWrite? d [(s, .write d [1])] = some (0, [1]) := by
    simp [firstWrite?, Operation.bytesFor?, s]
  have hat (now : Instant) : Shows (t.atTime now) d (if 5 ≤ now then some [1] else none) := by
    rcases (visible_from_first_write hs rfl (hwait now)).1 d with ⟨b, hb, -⟩ | ⟨-, hshows⟩
    · simp [hd] at hb
    · rw [hfirst] at hshows
      exact hshows
  obtain ⟨-, hstays, -, hend⟩ := visible_from_first_write hs rfl (hwait 5)
  have hread : (Operation.read d).answer? (t.atTime 5) ≠ none := fun hnone =>
    absurd ((hend _).1 hnone).2 (by decide)
  have hu : u = (t.atTime 5).lookedAt d := congrArg Prod.snd (outcome_read d (t.atTime 5))
  have hvisible : (t.atTime 5).isVisible d := (fetch?_eq_some_iff.1 (hat 5).fetch?_eq).1
  have hforgotten : u.visibleFrom? d = none := by
    rw [hu, visibleFrom?_lookedAt, if_pos ⟨rfl, hvisible⟩]
  have hagain : (Operation.write d [2]).answer? u ≠ none := by
    obtain ⟨-, -, -, hend⟩ := visible_from_first_write hs rfl ((hwait 5).operate _ hread)
    refine fun hnone => absurd ((hend _).1 hnone).2 ?_
    rw [show (Operation.read d).after (t.atTime 5) = _ from hu, now_lookedAt]
    decide
  exact ⟨hstart, hat 4, hat 5, hforgotten,
    hstays _ _ ((Timeline.start.operate _ hread).operate _ hagain) d _ (hat 5)⟩

end Formulary.Store
