import Formulary.Text.Lines

/-!
# Lines read back

What is written line by line is read as the same lines (`lines_unlines`), if none of them has a line
feed in it or a carriage return at its end.
-/

namespace Formulary.Text

/-- The text of some lines, each with a line feed after it. -/
def unlines : List String → String
  | [] => ""
  | line :: rest => line ++ "\n" ++ unlines rest

theorem unlines_append (texts more : List String) :
    unlines (texts ++ more) = unlines texts ++ unlines more := by
  induction texts with
  | nil => simp [unlines]
  | cons text texts ih => simp only [List.cons_append, unlines, ih, String.append_assoc]

/-- A line that has begun goes on up to the line feed. -/
theorem linesFrom_append {cs : List Char} (h : '\n' ∉ cs) (begun rest : List Char) :
    linesFrom begun (cs ++ '\n' :: rest) =
      withoutReturn (begun.reverse ++ cs) :: linesFrom [] rest := by
  induction cs generalizing begun with
  | nil => simp [linesFrom]
  | cons c cs ih =>
    obtain ⟨hc, hcs⟩ := not_or.1 (mt List.mem_cons.2 h)
    rw [List.cons_append, linesFrom, if_neg (Ne.symm hc), ih hcs, List.reverse_cons,
      List.append_assoc]
    rfl

theorem lines_unlines {texts : List String}
    (h : ∀ text ∈ texts, '\n' ∉ text.toList ∧ text.toList.getLast? ≠ some '\r') :
    lines (unlines texts) = texts := by
  induction texts with
  | nil => rfl
  | cons text texts ih =>
    obtain ⟨⟨hline, hreturn⟩, htexts⟩ := List.forall_mem_cons.1 h
    have hchars : (unlines (text :: texts)).toList =
        text.toList ++ '\n' :: (unlines texts).toList := by
      rw [unlines, String.toList_append, String.toList_append, List.append_assoc]
      rfl
    have hrest := ih htexts
    rw [lines] at hrest
    rw [lines, hchars, linesFrom_append hline, List.map_cons, hrest, List.reverse_nil,
      List.nil_append, withoutReturn, if_neg hreturn, String.ofList_toList]

end Formulary.Text
