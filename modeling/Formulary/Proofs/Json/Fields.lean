import Formulary.Json.Fields
import Mathlib.Logic.Basic
import Mathlib.Tactic.SplitIfs

/-!
# Lists read back

What reads values of a type undoes what writes them if it finds the written value wherever there is
room for its height, and nothing elsewhere (`ReadsBack`). So different values are written
differently, however high they are. What is read back item by item is read back as a list
(`readsBack_array`).
-/

namespace Formulary.Json

variable {α β : Type}

/-- A list of values is as high as the highest of them. -/
theorem itemsHeight_le_iff {items : List Json} {n : Nat} :
    itemsHeight items ≤ n ↔ ∀ v ∈ items, v.height ≤ n := by
  induction items with
  | nil => simp [itemsHeight]
  | cons v vs ih => rw [itemsHeight, Nat.max_le, ih, List.forall_mem_cons]

theorem itemsHeight_map_string (names : List String) :
    itemsHeight (names.map .string) = 0 := by
  rw [← Nat.le_zero, itemsHeight_le_iff]
  simp [height]

/-- The written value is read as `a` where there is room for it, and elsewhere not at all. -/
def ReadsBack (read : Nat → Written → Option α) (v : Json) (a : α) : Prop :=
  ∀ room, read room v.asWritten = if v.height ≤ room then some a else none

/-- What is written is read back somewhere, so nothing else is written like it. -/
theorem ReadsBack.eq_of_asWritten_eq {read : Nat → Written → Option α} {v w : Json} {a b : α}
    (hv : ReadsBack read v a) (hw : ReadsBack read w b) (h : v.asWritten = w.asWritten) :
    a = b := by
  have ha := hv (max v.height w.height)
  have hb := hw (max v.height w.height)
  rw [if_pos (Nat.le_max_left _ _), h] at ha
  rw [if_pos (Nat.le_max_right _ _), ha] at hb
  exact Option.some.inj hb

/-- What is read after something that depends on the room depends on the room as well. -/
theorem bind_ite {p : Prop} [Decidable p] (a : α) (f : α → Option β) :
    (if p then some a else none).bind f = if p then f a else none := by
  split_ifs <;> rfl

variable {read : Nat → Written → Option α} {toJson : α → Json} {as : List α}

theorem mapM_itemsAsWritten (h : ∀ a ∈ as, ReadsBack read (toJson a) a) (room : Nat) :
    (itemsAsWritten (as.map toJson)).mapM (read room) =
      if itemsHeight (as.map toJson) ≤ room then some as else none := by
  induction as with
  | nil => rfl
  | cons a as ih =>
    obtain ⟨ha, has⟩ := List.forall_mem_cons.1 h
    rw [List.map_cons, itemsAsWritten, List.mapM_cons, ha, ih has, itemsHeight]
    simp only [Option.bind_eq_bind, bind_ite, ← ite_and, Nat.max_le]
    rfl

/-- A list takes one level more than its items. -/
theorem readsBack_array (h : ∀ a ∈ as, ReadsBack read (toJson a) a) :
    ReadsBack (Written.list? read) (array (as.map toJson)) as := by
  intro room
  cases room with
  | zero => simp [asWritten, Written.list?, Written.items, height]
  | succ n =>
    have hroom : 1 + itemsHeight (as.map toJson) ≤ n + 1 ↔
        itemsHeight (as.map toJson) ≤ n := by omega
    rw [asWritten, Written.list?, Written.items, if_neg n.succ_ne_zero, Option.bind_eq_bind,
      Option.bind_some, Nat.add_sub_cancel, mapM_itemsAsWritten h n, height]
    simp only [hroom]

theorem readsBack_texts (names : List String) :
    ReadsBack Written.texts? (array (names.map .string)) names :=
  readsBack_array fun name _ n => by simp [asWritten, Written.text?, height]

end Formulary.Json
