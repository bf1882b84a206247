import Formulary.Text.Cluster
import Formulary.Text.Length

/-!
# Typing

A line at the prompt is taken as it has been typed, with its backspaces: each takes away what was
typed last of what is left, and this is a cluster (`Formulary.Text.Cluster`), not a character. On a
line with nothing left it does nothing.

What a backspace takes away is remembered as a number of bytes, and this number in one byte. So of a
cluster of 256 bytes or more it leaves some, and where it would cut through a character the line
cannot be edited.

* `edit`: what is left of a line; `edit_of_no_backspace`: a line without backspaces stays as it is;
* `press_backspace_press`: a backspace takes away what it follows.
-/

namespace Formulary.Prompt

/-- The character that takes away. -/
def backspace : Char := '\x08'

/-- A line that is being typed. -/
structure Typing where
  /-- What is left of it, from the last character back. -/
  kept : List Char
  /-- The numbers of bytes that the next backspaces take away. -/
  sizes : List Nat

namespace Typing

/-- Nothing has been typed. -/
def empty : Typing := ⟨[], []⟩

/-- The characters, from the last one back, without so many bytes; `none` if a character would be
    cut. -/
def dropBytes : Nat → List Char → Option (List Char)
  | 0, cs => some cs
  | _ + 1, [] => none
  | n + 1, c :: cs => if c.utf8Size ≤ n + 1 then dropBytes (n + 1 - c.utf8Size) cs else none

/-- Types a cluster. -/
def press (t : Typing) (cluster : List Char) : Option Typing :=
  if cluster = [backspace] then
    match t.sizes with
    | [] => some t
    | size :: sizes => (dropBytes size t.kept).map fun kept => ⟨kept, sizes⟩
  else some ⟨cluster.reverse ++ t.kept, Text.byteLength cluster % 256 :: t.sizes⟩

theorem dropBytes_append (cs rest : List Char) :
    dropBytes (Text.byteLength cs) (cs ++ rest) = some rest := by
  induction cs with
  | nil => simp [dropBytes]
  | cons c cs ih =>
    have size_pos := c.utf8Size_pos
    obtain ⟨n, hn⟩ : ∃ n, Text.byteLength (c :: cs) = n + 1 :=
      ⟨Text.byteLength (c :: cs) - 1, by rw [Text.byteLength_cons]; omega⟩
    have hc : c.utf8Size ≤ n + 1 := by rw [← hn]; simp
    have hcs : n + 1 - c.utf8Size = Text.byteLength cs := by rw [← hn]; simp
    rw [hn, List.cons_append, dropBytes, if_pos hc, hcs, ih]

/-- A backspace takes away the cluster before it, unless this has too many bytes. -/
theorem press_backspace_press {t u : Typing} {cluster : List Char} (h : cluster ≠ [backspace])
    (few : Text.byteLength cluster < 256) (hu : t.press cluster = some u) :
    u.press [backspace] = some t := by
  rw [press, if_neg h] at hu
  injection hu with hu
  subst hu
  simp only [press, if_true, Nat.mod_eq_of_lt few]
  rw [← Text.byteLength_reverse, dropBytes_append, Option.map_some]

theorem foldlM_press {pieces : List (List Char)} (h : [backspace] ∉ pieces) (t : Typing) :
    (pieces.foldlM press t).map kept = some (pieces.flatten.reverse ++ t.kept) := by
  induction pieces generalizing t with
  | nil => rfl
  | cons cluster pieces ih =>
    rw [List.mem_cons, not_or] at h
    rw [List.foldlM_cons, press, if_neg (Ne.symm h.1)]
    simpa using ih h.2 _

end Typing

/-- What is left of a line that has been typed. -/
def edit (typed : String) : Option String :=
  ((Text.clusters typed.toList).foldlM Typing.press .empty).map fun t => .ofList t.kept.reverse

/-- A line without backspaces stays as it is. -/
theorem edit_of_no_backspace {typed : String} (h : backspace ∉ typed.toList) :
    edit typed = some typed := by
  have none : [backspace] ∉ Text.clusters typed.toList := by
    intro hmem
    apply h
    rw [← Text.flatten_clusters typed.toList]
    exact List.mem_flatten.2 ⟨_, hmem, List.mem_singleton_self _⟩
  have hleft := Typing.foldlM_press none .empty
  rw [Text.flatten_clusters] at hleft
  obtain ⟨t, ht, hkept⟩ := Option.map_eq_some_iff.1 hleft
  rw [edit, ht, Option.map_some, hkept]
  simp [Typing.empty]

end Formulary.Prompt
