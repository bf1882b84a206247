import Formulary.Proofs.Json.Reading
import Formulary.Text.Blank

/-!
# Values on one line

A value is written without line feeds, for those in its strings are escaped. So it takes one line of
a stream of lines (`onOneLine_compact`), whatever texts there are in it. An object stands between
braces, so its line is not blank and no carriage return ends it.
-/

namespace Formulary.Json

/-- No line ends in the text. -/
def OnOneLine (text : String) : Prop :=
  '\n' ∉ text.toList

instance (text : String) : Decidable (OnOneLine text) :=
  inferInstanceAs (Decidable ('\n' ∉ text.toList))

theorem onOneLine_append {s t : String} (hs : OnOneLine s) (ht : OnOneLine t) :
    OnOneLine (s ++ t) := by
  rw [OnOneLine, String.toList_append, List.mem_append, not_or]
  exact ⟨hs, ht⟩

/-- A line feed is written as two other characters, and no other character as one. -/
theorem lineFeed_notMem_escapeChar (c : Char) : '\n' ∉ escapeChar c := by
  have hdigits : ∀ n < 16, Nat.digitChar n ≠ '\n' := by decide
  by_cases hlineFeed : c = '\n'
  · subst hlineFeed
    decide
  rw [escapeChar, if_neg hlineFeed]
  split_ifs with _ _ _ _ _ _ hcontrol
  · decide
  · decide
  · decide
  · decide
  · decide
  · decide
  -- a control character is written as four digits
  · have hhigh : '\n' ≠ Nat.digitChar (c.toNat / 16) := (hdigits _ (by omega)).symm
    have hlow : '\n' ≠ Nat.digitChar (c.toNat % 16) := (hdigits _ (by omega)).symm
    simp [hhigh, hlow]
  · simpa using Ne.symm hlineFeed

/-- Line feeds in a text are escaped. -/
theorem onOneLine_writeString (s : String) : OnOneLine (writeString s) := by
  refine onOneLine_append (onOneLine_append (by decide) ?_) (by decide)
  rw [OnOneLine, String.toList_ofList, List.mem_flatMap]
  exact fun ⟨c, _, hc⟩ => lineFeed_notMem_escapeChar c hc

theorem onOneLine_integer (n : Int) : OnOneLine (toString n) := by
  intro h
  rcases mem_toString h with hminus | hdigit
  · exact absurd hminus (by decide)
  · exact absurd hdigit (by decide)

theorem onOneLine_compactItems {items : List Json} (h : ∀ v ∈ items, OnOneLine v.compact) :
    OnOneLine (compactItems items) := by
  induction items with
  | nil => exact List.not_mem_nil
  | cons v vs ih =>
    obtain ⟨hv, hvs⟩ := List.forall_mem_cons.1 h
    cases vs with
    | nil => exact hv
    | cons w ws =>
      rw [compactItems.eq_3 _ _ (by simp)]
      exact onOneLine_append (onOneLine_append hv (by decide)) (ih hvs)

/-- Nothing is put between members but commas and colons. -/
theorem onOneLine_compactMembers {members : List (String × Json)}
    (h : ∀ m ∈ members, OnOneLine m.2.compact) : OnOneLine (compactMembers members) := by
  have hmember (key : String) {v : Json} (hv : OnOneLine v.compact) :
      OnOneLine (writeString key ++ ":" ++ v.compact) :=
    onOneLine_append (onOneLine_append (onOneLine_writeString key) (by decide)) hv
  induction members with
  | nil => exact List.not_mem_nil
  | cons m ms ih =>
    obtain ⟨hm, hms⟩ := List.forall_mem_cons.1 h
    cases ms with
    | nil => exact hmember m.1 hm
    | cons n ns =>
      rw [compactMembers.eq_3 _ _ _ (by simp)]
      exact onOneLine_append (onOneLine_append (hmember m.1 hm) (by decide)) (ih hms)

/-- A value without doubles is written on one line. -/
theorem IsExact.onOneLine_compact {v : Json} (h : v.IsExact) : OnOneLine v.compact := by
  induction h with
  | null => decide
  | bool value => cases value <;> decide
  | @int n _ => exact onOneLine_integer n
  | string value => exact onOneLine_writeString value
  | array _ ih =>
    exact onOneLine_append (onOneLine_append (by decide) (onOneLine_compactItems ih)) (by decide)
  | object _ ih =>
    exact onOneLine_append (onOneLine_append (by decide) (onOneLine_compactMembers ih)) (by decide)

/-! ## Objects -/

theorem toList_compact_object (members : List (String × Json)) :
    (object members).compact.toList = '\x7b' :: (compactMembers members).toList ++ ['\x7d'] := by
  rw [compact, String.toList_append, String.toList_append]
  rfl

/-- An object starts with a brace, which is not blank. -/
theorem isAllBlank_compact_object (members : List (String × Json)) :
    Text.isAllBlank (object members).compact = false := by
  have hbrace : Text.isBlank '\x7b' = false := by decide
  rw [Text.isAllBlank, toList_compact_object, List.cons_append, List.all_cons, hbrace,
    Bool.false_and]

theorem getLast?_compact_object (members : List (String × Json)) :
    (object members).compact.toList.getLast? = some '\x7d' := by
  rw [toList_compact_object, List.getLast?_concat]

end Formulary.Json
