import Formulary.Proofs.Json.Fields
import Formulary.Proofs.Json.Reading
import Mathlib.Data.String.Basic

/-!
# Values with sorted members

Sorting the members of objects by key puts them in strictly increasing order, so it changes nothing
when done again (`sorted_sorted`), and what stands under a key is what stood there last
(`lookup_sortMembers`). No value becomes higher or inexact by it.
-/

namespace Formulary.Json

/-! ## Members -/

theorem mem_insertMember {key : String} {v : Json} {ms : List (String × Json)}
    {m : String × Json} (h : m ∈ insertMember key v ms) : m = (key, v) ∨ m ∈ ms := by
  induction ms with
  | nil => exact .inl (List.mem_singleton.1 h)
  | cons n ms ih =>
    rw [insertMember] at h
    split_ifs at h
    · exact List.mem_cons.1 h
    · exact (List.mem_cons.1 h).imp id (List.mem_cons_of_mem n)
    · rcases List.mem_cons.1 h with rfl | h
      · exact .inr List.mem_cons_self
      · exact (ih h).imp id (List.mem_cons_of_mem n)

theorem mem_foldl_insertMember {ms before : List (String × Json)} {m : String × Json}
    (h : m ∈ ms.foldl (fun sorted m => insertMember m.1 m.2 sorted) before) :
    m ∈ before ∨ m ∈ ms := by
  induction ms generalizing before with
  | nil => exact .inl h
  | cons n ms ih =>
    rcases ih h with h | h
    · exact (mem_insertMember h).elim (fun h => .inr (h ▸ List.mem_cons_self)) .inl
    · exact .inr (List.mem_cons_of_mem n h)

/-- Sorting brings no member in. -/
theorem mem_of_mem_sortMembers {ms : List (String × Json)} {m : String × Json}
    (h : m ∈ sortMembers ms) : m ∈ ms :=
  (mem_foldl_insertMember h).resolve_left List.not_mem_nil

theorem lookup_insertMember (key : String) (v : Json) (ms : List (String × Json)) (k : String) :
    (insertMember key v ms).lookup k = ((key, v) :: ms).lookup k := by
  induction ms with
  | nil => rfl
  | cons m ms ih =>
    rw [insertMember]
    split_ifs with hlt heq
    · rfl
    · -- the new member stands in place of the old one
      subst heq
      rw [List.lookup_cons, List.lookup_cons, List.lookup_cons]
      cases k == m.1 <;> rfl
    · have hne : k = m.1 → k ≠ key := fun h h' => heq (h'.symm.trans h)
      rw [List.lookup_cons, ih, List.lookup_cons, List.lookup_cons, List.lookup_cons]
      by_cases hm : k = m.1
      · have hkey : (k == key) = false := by simpa using hne hm
        simp [hm ▸ hkey, hm]
      · have hmember : (k == m.1) = false := by simpa using hm
        rw [hmember]

theorem lookup_foldl_insertMember (ms before : List (String × Json)) (k : String) :
    (ms.foldl (fun sorted m => insertMember m.1 m.2 sorted) before).lookup k =
      (ms.reverse ++ before).lookup k := by
  induction ms generalizing before with
  | nil => rfl
  | cons m ms ih =>
    rw [List.foldl_cons, ih, List.reverse_cons, List.append_assoc, List.lookup_append,
      List.lookup_append, lookup_insertMember]
    rfl

/-- What stands under a key after sorting is what stood there last. -/
theorem lookup_sortMembers (ms : List (String × Json)) (k : String) :
    (sortMembers ms).lookup k = ms.reverse.lookup k := by
  rw [sortMembers, lookup_foldl_insertMember, List.append_nil]

/-! ## Order -/

/-- The keys are in strictly increasing order. -/
def KeysIncrease (ms : List (String × Json)) : Prop :=
  ms.Pairwise fun m n => m.1 < n.1

theorem KeysIncrease.insertMember {ms : List (String × Json)} (h : KeysIncrease ms) (key : String)
    (v : Json) : KeysIncrease (Json.insertMember key v ms) := by
  induction ms with
  | nil => exact List.pairwise_singleton _ _
  | cons m ms ih =>
    obtain ⟨hm, hms⟩ := List.pairwise_cons.1 h
    rw [Json.insertMember]
    split_ifs with hlt heq
    -- before the first member, in its place, or somewhere after it
    · refine List.pairwise_cons.2 ⟨fun n hn => ?_, h⟩
      rcases List.mem_cons.1 hn with rfl | hn
      · exact hlt
      · exact hlt.trans (hm n hn)
    · subst heq
      exact List.pairwise_cons.2 ⟨hm, hms⟩
    · refine List.pairwise_cons.2 ⟨fun n hn => ?_, ih hms⟩
      rcases mem_insertMember hn with rfl | hn
      · exact lt_of_le_of_ne (not_lt.1 hlt) (Ne.symm heq)
      · exact hm n hn

theorem keysIncrease_sortMembers (ms : List (String × Json)) : KeysIncrease (sortMembers ms) := by
  have hfold (before : List (String × Json)) (h : KeysIncrease before) :
      KeysIncrease (ms.foldl (fun sorted m => insertMember m.1 m.2 sorted) before) := by
    induction ms generalizing before with
    | nil => exact h
    | cons m ms ih => exact ih _ (h.insertMember m.1 m.2)
  exact hfold [] List.Pairwise.nil

/-- A member with a greater key than all others is put at their end. -/
theorem insertMember_of_greater {key : String} {ms : List (String × Json)}
    (h : ∀ m ∈ ms, m.1 < key) (v : Json) : insertMember key v ms = ms ++ [(key, v)] := by
  induction ms with
  | nil => rfl
  | cons m ms ih =>
    obtain ⟨hm, hms⟩ := List.forall_mem_cons.1 h
    rw [insertMember, if_neg hm.not_gt, if_neg hm.ne', ih hms, List.cons_append]

/-- Members in order stay as they are. -/
theorem sortMembers_eq_self {ms : List (String × Json)} (h : KeysIncrease ms) :
    sortMembers ms = ms := by
  have hfold (before : List (String × Json)) (hall : KeysIncrease (before ++ ms)) :
      ms.foldl (fun sorted m => insertMember m.1 m.2 sorted) before = before ++ ms := by
    induction ms generalizing before with
    | nil => exact (List.append_nil before).symm
    | cons m ms ih =>
      have hm : ∀ n ∈ before, n.1 < m.1 := fun n hn =>
        (List.pairwise_append.1 hall).2.2 n hn m List.mem_cons_self
      have hsplit : before ++ m :: ms = before ++ [m] ++ ms := List.append_cons before m ms
      -- the next member goes to the end of those before it
      rw [List.foldl_cons, insertMember_of_greater hm]
      rw [hsplit] at hall ⊢
      exact ih (List.pairwise_cons.1 h).2 _ hall
  exact hfold [] h

/-! ## Values -/

theorem sortedItems_eq_map (items : List Json) : sortedItems items = items.map sorted := by
  induction items with
  | nil => rfl
  | cons v vs ih => rw [sortedItems, ih, List.map_cons]

theorem sortedMembers_eq_map (ms : List (String × Json)) :
    sortedMembers ms = ms.map fun m => (m.1, m.2.sorted) := by
  induction ms with
  | nil => rfl
  | cons m ms ih => rw [sortedMembers, ih, List.map_cons]

/-- The members of a sorted object are those of the object, sorted. -/
theorem exists_of_mem_sorted {ms : List (String × Json)} {m : String × Json}
    (h : m ∈ sortMembers (sortedMembers ms)) : ∃ n ∈ ms, (n.1, n.2.sorted) = m := by
  have hmem := mem_of_mem_sortMembers h
  rw [sortedMembers_eq_map] at hmem
  exact List.mem_map.1 hmem

theorem sorted_sorted (v : Json) : v.sorted.sorted = v.sorted := by
  induction v with
  | null | bool | number | string => rfl
  | array items ih =>
    rw [sorted, sorted, sortedItems_eq_map, sortedItems_eq_map, List.map_map]
    exact congrArg array (List.map_congr_left ih)
  | object members ih =>
    -- the values are sorted by induction, and their order is one that sorting keeps
    have hfixed : sortedMembers (sortMembers (sortedMembers members)) =
        sortMembers (sortedMembers members) := by
      rw [sortedMembers_eq_map (sortMembers _)]
      refine (List.map_congr_left fun m hm => ?_).trans (List.map_id _)
      obtain ⟨n, hn, rfl⟩ := exists_of_mem_sorted hm
      exact congrArg (n.1, ·) (ih n hn)
    rw [sorted, sorted, hfixed, sortMembers_eq_self (keysIncrease_sortMembers _)]

theorem IsExact.sorted {v : Json} (h : v.IsExact) : v.sorted.IsExact := by
  induction h with
  | null => exact .null
  | bool value => exact .bool value
  | int h => exact .int h
  | string value => exact .string value
  | @array items _ ih =>
    rw [Json.sorted, sortedItems_eq_map]
    exact .array (List.forall_mem_map.2 ih)
  | @object members _ ih =>
    refine .object fun m hm => ?_
    obtain ⟨n, hn, rfl⟩ := exists_of_mem_sorted hm
    exact ih n hn

theorem membersHeight_le_iff {ms : List (String × Json)} {n : Nat} :
    membersHeight ms ≤ n ↔ ∀ m ∈ ms, m.2.height ≤ n := by
  induction ms with
  | nil => simp [membersHeight]
  | cons m ms ih => rw [membersHeight, Nat.max_le, ih, List.forall_mem_cons]

theorem height_sorted_le (v : Json) : v.sorted.height ≤ v.height := by
  induction v with
  | null | bool | number | string => exact Nat.le_refl _
  | array items ih =>
    rw [sorted, sortedItems_eq_map, height, height]
    refine Nat.add_le_add_left (itemsHeight_le_iff.2 (List.forall_mem_map.2 fun v hv => ?_)) 1
    exact (ih v hv).trans (itemsHeight_le_iff.1 (Nat.le_refl _) v hv)
  | object members ih =>
    rw [sorted, height, height]
    refine Nat.add_le_add_left (membersHeight_le_iff.2 fun m hm => ?_) 1
    obtain ⟨n, hn, rfl⟩ := exists_of_mem_sorted hm
    exact (ih n hn).trans (membersHeight_le_iff.1 (Nat.le_refl _) n hn)

/-! ## Free values -/

theorem items?_itemsAsWritten {items : List Json}
    (h : ∀ v ∈ items, ReadsBack Written.value? v v) (room : Nat) :
    Written.items? room (itemsAsWritten items) =
      if itemsHeight items ≤ room then some items else none := by
  induction items with
  | nil => rfl
  | cons v vs ih =>
    obtain ⟨hv, hvs⟩ := List.forall_mem_cons.1 h
    rw [itemsAsWritten, Written.items?, hv, ih hvs, itemsHeight]
    simp only [Option.bind_eq_bind, bind_ite, ← ite_and, Nat.max_le]

theorem members?_membersAsWritten {ms : List (String × Json)}
    (h : ∀ m ∈ ms, ReadsBack Written.value? m.2 m.2) (room : Nat) :
    Written.members? room (membersAsWritten ms) =
      if membersHeight ms ≤ room then some ms else none := by
  induction ms with
  | nil => rfl
  | cons m ms ih =>
    obtain ⟨hm, hms⟩ := List.forall_mem_cons.1 h
    rw [membersAsWritten, Written.members?, hm, ih hms, membersHeight]
    simp only [Option.bind_eq_bind, Option.bind_some, bind_ite, ← ite_and, Nat.max_le]

/-- Every value is read back where there is room for it. -/
theorem readsBack_value (v : Json) : ReadsBack Written.value? v v := by
  have hroom (n room : Nat) : 1 + n ≤ room + 1 ↔ n ≤ room := by omega
  induction v with
  | null | bool | number | string =>
    exact fun room => by simp [asWritten, Written.value?, height]
  | array items ih =>
    intro room
    rw [asWritten, Written.value?, height]
    cases room with
    | zero => simp
    | succ room =>
      rw [if_neg room.succ_ne_zero, Nat.add_sub_cancel, items?_itemsAsWritten ih]
      simp only [hroom]
      split_ifs <;> rfl
  | object members ih =>
    intro room
    rw [asWritten, Written.value?, height]
    cases room with
    | zero => simp
    | succ room =>
      rw [if_neg room.succ_ne_zero, Nat.add_sub_cancel, members?_membersAsWritten ih]
      simp only [hroom]
      split_ifs <;> rfl

/-- A free value is read back sorted. -/
theorem free?_asWritten {v : Json} {room : Nat} (h : v.height ≤ room) :
    v.asWritten.free? room = some v.sorted := by
  rw [Written.free?, readsBack_value, if_pos h]
  rfl

end Formulary.Json
