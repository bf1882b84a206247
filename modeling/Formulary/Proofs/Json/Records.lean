import Formulary.Proofs.Json.Sorted

/-!
# Records read by name

The fields of a record are found by name, so the order in which an object has them does not matter
(`exists_fields`). What reads values finds a value also with the members of its objects in another
order than the one in which they are written (`ReadsSorted`), as they are in a free value.
-/

namespace Formulary.Json

variable {α : Type}

/-! ## Fields -/

theorem exists_knownFields {names : List String} {ms : List (String × Json)}
    (hnodup : (ms.map Prod.fst).Nodup) (found : Fields)
    (hfree : ∀ m ∈ ms, found.lookup m.1 = none) :
    ∃ fields, knownFields names false found (membersAsWritten ms) = some fields ∧
      ∀ name ∈ names,
        fields.lookup name = ((ms.lookup name).map asWritten).or (found.lookup name) := by
  induction ms generalizing found with
  | nil => exact ⟨found, rfl, fun name _ => rfl⟩
  | cons m ms ih =>
    obtain ⟨key, v⟩ := m
    obtain ⟨hkey, hms⟩ := List.nodup_cons.1 hnodup
    obtain ⟨hm, hfree⟩ := List.forall_mem_cons.1 hfree
    have hapart : ∀ m ∈ ms, m.1 ≠ key := fun m hm h => hkey (h ▸ List.mem_map.2 ⟨m, hm, rfl⟩)
    rw [membersAsWritten, knownFields]
    by_cases hknown : key ∈ names
    · -- the field is found, and no other member has its key
      have hother : ∀ m ∈ ms, List.lookup m.1 ((key, v.asWritten) :: found) = none := by
        intro m hm
        have hne : (m.1 == key) = false := by simpa using hapart m hm
        rw [List.lookup_cons, hne]
        exact hfree m hm
      obtain ⟨fields, hfields, hlookup⟩ := ih hms _ hother
      refine ⟨fields, by rwa [if_pos hknown, if_neg (by simp [hm])], fun name hname => ?_⟩
      rw [hlookup name hname, List.lookup_cons, List.lookup_cons]
      by_cases h : name = key
      · have hnone : ms.lookup name = none :=
          List.lookup_eq_none_iff.2 fun m hm => by simpa using (h ▸ hapart m hm).symm
        have heq : (name == key) = true := by simpa using h
        simp [heq, hnone]
      · have hne : (name == key) = false := by simpa using h
        simp [hne]
    -- another member is passed over, and is none of the names
    · obtain ⟨fields, hfields, hlookup⟩ := ih hms found hfree
      refine ⟨fields, by rwa [if_neg hknown, if_neg Bool.false_ne_true], fun name hname => ?_⟩
      have hne : (name == key) = false := by simpa using fun h : name = key => hknown (h ▸ hname)
      rw [hlookup name hname, List.lookup_cons, hne]

/-- The fields of an object are found by name if each stands once. -/
theorem exists_fields (names : List String) (ms : List (String × Json))
    (hnodup : (ms.map Prod.fst).Nodup) (room : Nat) :
    ∃ fields, (object ms).asWritten.record? names false (room + 1) = some fields ∧
      ∀ name ∈ names, fields.lookup name = (ms.lookup name).map asWritten := by
  obtain ⟨fields, hfields, hlookup⟩ := @exists_knownFields names ms hnodup [] fun _ _ => rfl
  exact ⟨fields, hfields, fun name hname => (hlookup name hname).trans Option.or_none⟩

/-- An object is read as a record wherever there is room for it. -/
theorem exists_record (names : List String) (ms : List (String × Json))
    (hnodup : (ms.map Prod.fst).Nodup) {room : Nat} (hroom : (object ms).height ≤ room) :
    ∃ fields, (object ms).asWritten.record? names false room = some fields ∧
      ∀ name ∈ names, fields.lookup name = (ms.lookup name).map asWritten := by
  rw [height] at hroom
  obtain ⟨below, rfl⟩ : ∃ below, room = below + 1 := ⟨room - 1, by omega⟩
  exact exists_fields names ms hnodup below

theorem lookup_sortedMembers (ms : List (String × Json)) (key : String) :
    (sortedMembers ms).lookup key = (ms.lookup key).map sorted := by
  induction ms with
  | nil => rfl
  | cons m ms ih =>
    rw [sortedMembers, List.lookup_cons, List.lookup_cons, ih]
    cases key == m.1 <;> rfl

/-- In a sorted object the last one of each field is found, sorted. -/
theorem exists_fields_sorted (names : List String) (ms : List (String × Json)) (room : Nat) :
    ∃ fields, (object ms).sorted.asWritten.record? names false (room + 1) = some fields ∧
      ∀ name ∈ names,
        fields.lookup name = (ms.reverse.lookup name).map fun v => v.sorted.asWritten := by
  have hnodup : ((sortMembers (sortedMembers ms)).map Prod.fst).Nodup :=
    (List.pairwise_map.2 (keysIncrease_sortMembers _)).imp ne_of_lt
  have hreverse : (sortedMembers ms).reverse = sortedMembers ms.reverse := by
    rw [sortedMembers_eq_map, sortedMembers_eq_map, List.map_reverse]
  obtain ⟨fields, hfields, hlookup⟩ := exists_fields names _ hnodup room
  refine ⟨fields, hfields, fun name hname => ?_⟩
  rw [hlookup name hname, lookup_sortMembers, hreverse, lookup_sortedMembers, Option.map_map]
  rfl

/-! ## Sorted values -/

/-- The value is read as `a`, wherever there is room for it, also if its members are sorted. -/
def ReadsSorted (read : Nat → Written → Option α) (v : Json) (a : α) : Prop :=
  ∀ room, v.height ≤ room → read room v.sorted.asWritten = some a

variable {read : Nat → Written → Option α} {toJson : α → Json} {as : List α}

/-- What is read back is so as well when there is nothing to sort. -/
theorem ReadsBack.readsSorted {v : Json} {a : α} (h : ReadsBack read v a) (hv : v.sorted = v) :
    ReadsSorted read v a := by
  intro room hroom
  rw [hv, h, if_pos hroom]

theorem readsSorted_array (h : ∀ a ∈ as, ReadsSorted read (toJson a) a) :
    ReadsSorted (Written.list? read) (array (as.map toJson)) as := by
  intro room hroom
  rw [height] at hroom
  obtain ⟨below, rfl⟩ : ∃ below, room = below + 1 := ⟨room - 1, by omega⟩
  have hitems : itemsHeight (as.map toJson) ≤ below := by omega
  rw [sorted, asWritten, Written.list?, Written.items, if_neg below.succ_ne_zero,
    Option.bind_eq_bind, Option.bind_some, Nat.add_sub_cancel]
  clear hroom
  induction as with
  | nil => rfl
  | cons a as ih =>
    obtain ⟨ha, has⟩ := List.forall_mem_cons.1 h
    obtain ⟨hheight, hheights⟩ := List.forall_mem_cons.1 (itemsHeight_le_iff.1 hitems)
    rw [List.map_cons, sortedItems, itemsAsWritten, List.mapM_cons, ha below hheight,
      ih has (itemsHeight_le_iff.2 hheights)]
    rfl

theorem readsSorted_texts (names : List String) :
    ReadsSorted Written.texts? (array (names.map .string)) names :=
  readsSorted_array fun _ _ _ _ => rfl

end Formulary.Json
