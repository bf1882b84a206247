import Formulary.Digest
import Mathlib.Data.List.Nodup

/-!
# The order of digests

Digests are in the order of their bytes, which is total. A list without repetitions that is sorted
by it is strictly increasing (`increasing_mergeSort`).
-/

namespace Formulary.Digest

theorem le_trans {d e f : Digest} (hde : d.le e) (hef : e.le f) : d.le f := by
  simp only [le, decide_eq_true_eq] at hde hef ⊢
  exact List.le_trans hde hef

theorem le_total (d e : Digest) : d.le e || e.le d := by
  simp only [le, Bool.or_eq_true, decide_eq_true_eq]
  exact List.le_total d.bytes e.bytes

/-- No two digests are in the same place of the order. -/
theorem le_antisymm {d e : Digest} (hde : d.le e) (hed : e.le d) : d = e := by
  simp only [le, decide_eq_true_eq] at hde hed
  cases d
  cases e
  congr
  exact List.le_antisymm hde hed

/-- Each digest is less than those after it: it is not the other way round. -/
def Increasing (ds : List Digest) : Prop :=
  ds.Pairwise fun d e => e.le d = false

/-- Sorted digests are in order. -/
theorem pairwise_mergeSort (ds : List Digest) : (ds.mergeSort le).Pairwise fun d e => d.le e :=
  @List.pairwise_mergeSort _ le (fun _ _ _ => le_trans) le_total ds

/-- Different digests are in a strict order when they are sorted. -/
theorem increasing_mergeSort {ds : List Digest} (h : ds.Nodup) : Increasing (ds.mergeSort le) := by
  have hsorted := pairwise_mergeSort ds
  have hnodup := (List.mergeSort_perm ds le).nodup_iff.2 h
  refine (hsorted.and hnodup).imp fun ⟨hle, hne⟩ => ?_
  exact Bool.eq_false_iff.2 fun hge => hne (le_antisymm hle hge)

/-- In a strict order nothing stands twice. -/
theorem Increasing.nodup {ds : List Digest} (h : Increasing ds) : ds.Nodup := by
  refine h.imp fun hlt => ?_
  rintro rfl
  simp [le] at hlt

theorem increasing_mergeSort_iff {ds : List Digest} :
    Increasing (ds.mergeSort le) ↔ ds.Nodup :=
  ⟨fun h => (List.mergeSort_perm ds le).nodup_iff.1 h.nodup, increasing_mergeSort⟩

/-- Two lists in strict order are the same if they have the same digests. -/
theorem Increasing.eq_of_mem_iff {ds es : List Digest} (hds : Increasing ds) (hes : Increasing es)
    (h : ∀ d, d ∈ ds ↔ d ∈ es) : ds = es := by
  refine ((List.perm_ext_iff_of_nodup hds.nodup hes.nodup).2 h).eq_of_pairwise ?_ hds hes
  intro d e _ _ hde hed
  simpa [hde, hed] using le_total d e

end Formulary.Digest
