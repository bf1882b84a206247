import Formulary.Store.Await
import Mathlib.Logic.Basic
import Mathlib.Tactic.SplitIfs

/-!
# What a store forgets

A look at something that may be seen makes the store forget since when (`lookedAt`). Nobody can
tell: what is forgotten is a moment that has come, so the same may be seen at any time from then on.

* `Passes`: all that becomes of a store that nobody writes to;
* `Passes.isVisible_iff`: what may be seen in it is what could be seen by now if nothing were
  forgotten;
* `lookedAt_atTime_lookedAt`: an earlier look makes no difference to a later one.
-/

namespace Formulary.Store

variable {s t u : Store} {d e : Digest}

/-- The delay after which bytes become visible, if they have to settle. -/
def delay? (s : Store) : Option Duration :=
  s.settling.map Settling.delay

theorem delay?_eq_some_iff {delay : Duration} :
    s.delay? = some delay ↔ ∃ settling, s.settling = some settling ∧ settling.delay = delay :=
  Option.map_eq_some_iff

theorem delay?_eq_none_iff : s.delay? = none ↔ s.settling = none :=
  Option.map_eq_none_iff

/-- Something may be seen unless it is remembered that it may be so only later. -/
theorem isVisible_iff : s.isVisible d ↔ ∀ start ∈ s.visibleFrom? d, start ≤ s.now := by
  rw [isVisible]
  rcases s.visibleFrom? d with _ | start <;> simp

/-! ## Looks that forget -/

/-- What is forgotten is one mark. -/
theorem visibleFrom?_forget (s : Store) (d e : Digest) :
    (s.forget d).visibleFrom? e = if e = d then none else s.visibleFrom? e := by
  rw [visibleFrom?, visibleFrom?, forget]
  rcases s.settling with _ | settling
  · simp
  · split_ifs with he
    · subst he
      exact Disk.lookup_filter_self settling.visibleFrom
    · exact Disk.lookup_filter_ne settling.visibleFrom he

/-- What is forgotten is forgotten once and for all. -/
@[simp] theorem forget_forget (s : Store) (d : Digest) : (s.forget d).forget d = s.forget d := by
  simp [forget, Function.comp_def]

/-- A look at what may be seen makes the store forget since when. -/
theorem lookedAt_of_isVisible (h : s.isVisible d) : s.lookedAt d = s.forget d := if_pos h

/-- A look at what may not be seen changes nothing. -/
theorem lookedAt_of_not_isVisible (h : ¬s.isVisible d) : s.lookedAt d = s := if_neg h

/-- A store that does not settle has nothing to forget. -/
theorem lookedAt_of_none (h : s.settling = none) (d : Digest) : s.lookedAt d = s := by
  rcases s with ⟨shelf, settling, disk, now, log⟩
  obtain rfl : settling = none := h
  rfl

/-- After a look one mark is gone, if it was due. -/
theorem visibleFrom?_lookedAt (s : Store) (d e : Digest) :
    (s.lookedAt d).visibleFrom? e = if e = d ∧ s.isVisible d then none else s.visibleFrom? e := by
  by_cases h : s.isVisible d
  · simp [lookedAt_of_isVisible h, visibleFrom?_forget, h]
  · simp [lookedAt_of_not_isVisible h, h]

/-- A look changes nothing but what is remembered. -/
theorem exists_lookedAt_eq (s : Store) (d : Digest) :
    ∃ settling, settling.map Settling.delay = s.delay? ∧ s.lookedAt d = { s with settling } := by
  rw [lookedAt]
  split_ifs
  · refine ⟨_, ?_, rfl⟩
    rw [Option.map_map]
    rfl
  · exact ⟨s.settling, rfl, rfl⟩

@[simp] theorem now_lookedAt (s : Store) (d : Digest) : (s.lookedAt d).now = s.now := by
  obtain ⟨settling, -, h⟩ := s.exists_lookedAt_eq d
  rw [h]

theorem log_lookedAt (s : Store) (d : Digest) : (s.lookedAt d).log = s.log := by
  obtain ⟨settling, -, h⟩ := s.exists_lookedAt_eq d
  rw [h]

/-! ## Stores that nobody writes to -/

/-- Time has passed, events were logged, and of what may be seen it may be forgotten since when. -/
structure Passes (s t : Store) : Prop where
  shelf_eq : t.shelf = s.shelf
  disk_eq : t.disk = s.disk
  delay?_eq : t.delay? = s.delay?
  now_le : s.now ≤ t.now
  visibleFrom? : ∀ d, t.visibleFrom? d = s.visibleFrom? d ∨
    t.visibleFrom? d = none ∧ ∃ start ∈ s.visibleFrom? d, start ≤ t.now

namespace Passes

theorem refl (s : Store) : Passes s s := ⟨rfl, rfl, rfl, Nat.le_refl _, fun _ => .inl rfl⟩

/-- A mark that has gone was due, and does not come back. -/
theorem trans (hst : Passes s t) (htu : Passes t u) : Passes s u := by
  refine ⟨htu.shelf_eq.trans hst.shelf_eq, htu.disk_eq.trans hst.disk_eq,
    htu.delay?_eq.trans hst.delay?_eq, Nat.le_trans hst.now_le htu.now_le, fun d => ?_⟩
  rcases htu.visibleFrom? d with hsame | ⟨hnone, start, hstart, hle⟩
  · refine (hst.visibleFrom? d).imp hsame.trans fun ⟨hnone, start, hstart, hle⟩ => ?_
    exact ⟨hsame.trans hnone, start, hstart, Nat.le_trans hle htu.now_le⟩
  · -- it was remembered before it was forgotten
    rcases hst.visibleFrom? d with hsame | ⟨hnone', -⟩
    · exact .inr ⟨hnone, start, hsame ▸ hstart, hle⟩
    · simp [hnone'] at hstart

theorem of_log (s : Store) (log : List Event) : Passes s { s with log } :=
  ⟨rfl, rfl, rfl, Nat.le_refl _, fun _ => .inl rfl⟩

theorem atTime (h : Passes s t) {now : Instant} (hnow : t.now ≤ now) : Passes s (t.atTime now) :=
  h.trans ⟨rfl, rfl, rfl, hnow, fun _ => .inl rfl⟩

/-- A look is no more than this. -/
theorem lookedAt (s : Store) (d : Digest) : Passes s (s.lookedAt d) := by
  obtain ⟨settling, hdelay, h⟩ := s.exists_lookedAt_eq d
  refine ⟨by rw [h], by rw [h], by rw [h]; exact hdelay,
    Nat.le_of_eq (now_lookedAt s d).symm, fun e => ?_⟩
  rw [visibleFrom?_lookedAt, now_lookedAt]
  split_ifs with he
  · obtain ⟨rfl, hvisible⟩ := he
    rcases hstart : s.visibleFrom? e with _ | start
    · exact .inl rfl
    · exact .inr ⟨rfl, start, rfl, Store.isVisible_iff.1 hvisible start hstart⟩
  · exact .inl rfl

/-- Nobody has written, so there are the same bytes. -/
theorem bytes?_eq (h : Passes s t) : t.bytes? = s.bytes? := by
  funext d
  rw [bytes?, bytes?, h.shelf_eq, h.disk_eq]

/-- A store that does not settle still does not. -/
theorem settling_eq_none (h : Passes s t) (hs : s.settling = none) : t.settling = none := by
  rw [← delay?_eq_none_iff, h.delay?_eq, delay?_eq_none_iff, hs]

/-- What may be seen is what might be seen by now if nothing were forgotten. -/
theorem isVisible_iff (h : Passes s t) {d : Digest} :
    t.isVisible d ↔ ∀ start ∈ s.visibleFrom? d, start ≤ t.now := by
  rw [Store.isVisible_iff]
  rcases h.visibleFrom? d with hsame | ⟨hnone, start, hstart, hle⟩
  · rw [hsame]
  · rw [hnone, Option.mem_def.1 hstart]
    simpa using hle

/-- What may be seen may still be seen later. -/
theorem isVisible (h : Passes s t) (hd : s.isVisible d) : t.isVisible d :=
  h.isVisible_iff.2 fun start hstart =>
    Nat.le_trans (Store.isVisible_iff.1 hd start hstart) h.now_le

/-- A later look gives the same, whatever was forgotten before. -/
theorem fetch?_atTime (h : Passes s t) {now : Instant} (hnow : t.now ≤ now) :
    (t.atTime now).fetch? = (s.atTime now).fetch? := by
  funext d
  have hlater := h.atTime hnow
  have hvisible : (t.atTime now).isVisible d = (s.atTime now).isVisible d := by
    rw [Bool.eq_iff_iff, hlater.isVisible_iff, Store.isVisible_iff]
    rfl
  have hbytes : (s.atTime now).bytes? = s.bytes? := rfl
  rw [fetch?, fetch?, hvisible, hlater.bytes?_eq, hbytes]

end Passes

/-- Somebody has looked at the store: events were logged, and of what may be seen it may be
    forgotten since when. -/
structure Looked (s t : Store) : Prop extends Passes s t where
  now_eq : t.now = s.now

namespace Looked

theorem refl (s : Store) : Looked s s := ⟨.refl s, rfl⟩

theorem trans (hst : Looked s t) (htu : Looked t u) : Looked s u :=
  ⟨hst.toPasses.trans htu.toPasses, htu.now_eq.trans hst.now_eq⟩

theorem of_log (s : Store) (log : List Event) : Looked s { s with log } := ⟨.of_log s log, rfl⟩

theorem lookedAt (s : Store) (d : Digest) : Looked s (s.lookedAt d) :=
  ⟨.lookedAt s d, now_lookedAt s d⟩

/-- To have been looked at changes nothing of what may be seen. -/
theorem isVisible_eq (h : Looked s t) : t.isVisible = s.isVisible := by
  funext d
  rw [Bool.eq_iff_iff, h.isVisible_iff, Store.isVisible_iff, h.now_eq]

/-- Nor does it change what is found. -/
theorem fetch?_eq (h : Looked s t) : t.fetch? = s.fetch? := by
  funext d
  rw [fetch?, fetch?, h.isVisible_eq, h.bytes?_eq]

end Looked

/-! ## Looks one after the other -/

theorem isVisible_lookedAt (s : Store) (d : Digest) : (s.lookedAt d).isVisible = s.isVisible :=
  (Looked.lookedAt s d).isVisible_eq

theorem fetch?_lookedAt (s : Store) (d : Digest) : (s.lookedAt d).fetch? = s.fetch? :=
  (Looked.lookedAt s d).fetch?_eq

/-- The store after a look under each of some digests. -/
def lookedAtAll (s : Store) (ds : List Digest) : Store :=
  ds.foldl lookedAt s

theorem lookedAtAll_cons (s : Store) (d : Digest) (ds : List Digest) :
    s.lookedAtAll (d :: ds) = (s.lookedAt d).lookedAtAll ds := rfl

theorem lookedAtAll_of_none (h : s.settling = none) (ds : List Digest) : s.lookedAtAll ds = s := by
  induction ds with
  | nil => rfl
  | cons d ds ih => rw [lookedAtAll_cons, lookedAt_of_none h, ih]

/-- Many looks are no more than one. -/
theorem Looked.lookedAtAll (s : Store) (ds : List Digest) : Looked s (s.lookedAtAll ds) := by
  induction ds generalizing s with
  | nil => exact .refl s
  | cons d ds ih => exact (Looked.lookedAt s d).trans (ih (s.lookedAt d))

/-- A second look has nothing left to forget. -/
@[simp] theorem lookedAt_lookedAt (s : Store) (d : Digest) :
    (s.lookedAt d).lookedAt d = s.lookedAt d := by
  by_cases h : s.isVisible d
  · have h' : (s.forget d).isVisible d := by rwa [← lookedAt_of_isVisible h, isVisible_lookedAt]
    rw [lookedAt_of_isVisible h, lookedAt_of_isVisible h', forget_forget]
  · rw [lookedAt_of_not_isVisible h, lookedAt_of_not_isVisible h]

/-- What was forgotten in a look would be so in any later one. -/
theorem lookedAt_atTime_lookedAt (d : Digest) {now : Instant} (hnow : s.now ≤ now) :
    ((s.lookedAt d).atTime now).lookedAt d = (s.atTime now).lookedAt d := by
  by_cases h : s.isVisible d
  · have hlater : (s.atTime now).isVisible d := ((Passes.refl s).atTime hnow).isVisible h
    have hforgotten : ((s.forget d).atTime now).visibleFrom? d = none :=
      (visibleFrom?_forget s d d).trans (if_pos rfl)
    have hagain : ((s.forget d).atTime now).isVisible d := by simp [isVisible_iff, hforgotten]
    rw [lookedAt_of_isVisible h, lookedAt_of_isVisible hlater, lookedAt_of_isVisible hagain]
    exact congrArg (atTime · now) (forget_forget s d)
  · rw [lookedAt_of_not_isVisible h]

end Formulary.Store
