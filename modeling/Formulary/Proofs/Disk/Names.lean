import Formulary.Disk
import Mathlib.Data.List.Nodup

/-!
# The names in a folder

On a disk where each location stands once (`IsMap`) the names in a folder are different, and they
are those under which something is found there (`mem_namesIn_iff`).
-/

namespace Formulary.Disk

/-- Each location stands once. -/
def IsMap (disk : Disk) : Prop :=
  (disk.nodes.map Prod.fst).Nodup

instance (disk : Disk) : Decidable disk.IsMap :=
  inferInstanceAs (Decidable (disk.nodes.map Prod.fst).Nodup)

/-- One thing is put at a location, and what was there is gone. -/
theorem IsMap.put {disk : Disk} (h : disk.IsMap) (l : Location) (n : Node) :
    (disk.put l n).IsMap := by
  have hkept : ((disk.nodes.filter (·.1 ≠ l)).map Prod.fst).Nodup :=
    h.sublist (List.filter_sublist.map Prod.fst)
  rw [IsMap, Disk.put, List.map_append, List.nodup_append]
  -- what stood at the location has been taken out, so it does not stand twice
  refine ⟨hkept, by simp, fun m hm k hk => ?_⟩
  obtain ⟨node, hnode, rfl⟩ := List.mem_map.1 hm
  obtain rfl : k = l := by simpa using hk
  simpa using (List.mem_filter.1 hnode).2

/-- The locations on the disk are those where something stands. -/
theorem mem_map_fst_iff {disk : Disk} {l : Location} (hl : l ≠ []) :
    l ∈ disk.nodes.map Prod.fst ↔ (disk.find? l).isSome := by
  rw [find?, if_neg hl, List.lookup_isSome_iff]
  simp

/-- The name of what stands directly in a folder. -/
def nameIn? (l m : Location) : Option String :=
  if m.dropLast = l then m.getLast? else none

theorem namesIn_eq (disk : Disk) (l : Location) :
    disk.namesIn l = (disk.nodes.map Prod.fst).filterMap (nameIn? l) := by
  rw [List.filterMap_map]
  rfl

/-- A location is in a folder if it is that of the folder and a name. -/
theorem nameIn?_eq_some_iff {l m : Location} {name : String} :
    nameIn? l m = some name ↔ m = l ++ [name] := by
  rw [nameIn?]
  constructor
  · intro h
    split_ifs at h with hl
    obtain ⟨front, rfl⟩ := List.getLast?_eq_some_iff.1 h
    rw [← hl, List.dropLast_concat]
  · rintro rfl
    simp

/-- No name stands twice in a folder. -/
theorem nodup_namesIn {disk : Disk} (h : disk.IsMap) (l : Location) : (disk.namesIn l).Nodup := by
  rw [namesIn_eq]
  refine List.Nodup.filterMap (fun m n name hm hn => ?_) h
  rw [nameIn?_eq_some_iff.1 hm, nameIn?_eq_some_iff.1 hn]

/-- The names in a folder are those under which something is found there. -/
theorem mem_namesIn_iff {disk : Disk} {l : Location} {name : String} :
    name ∈ disk.namesIn l ↔ (disk.find? (l ++ [name])).isSome := by
  rw [namesIn_eq, List.mem_filterMap, ← mem_map_fst_iff (by simp)]
  constructor
  · rintro ⟨m, hm, hname⟩
    rwa [← nameIn?_eq_some_iff.1 hname]
  · exact fun h => ⟨_, h, nameIn?_eq_some_iff.2 rfl⟩

end Formulary.Disk
