import Formulary.Text.Ranges

/-!
# Blanks

The white space that separates words everywhere in this library: the characters with the property
`White_Space` of the Unicode standard, not the ASCII blanks alone.

* `isBlank_of_isWhitespace`: what `Char.isWhitespace` accepts is a blank;
* `trim`: a text without the blanks around it; `trim_of_no_blank`: one without any stays as it is;
* `words`: what stands between blanks.
-/

namespace Formulary.Text

/-- The code points with the property `White_Space`. -/
def blanks : Ranges := [
  (0x9, 0xd), (0x20, 0x20), (0x85, 0x85), (0xa0, 0xa0), (0x1680, 0x1680), (0x2000, 0x200a),
  (0x2028, 0x2029), (0x202f, 0x202f), (0x205f, 0x205f), (0x3000, 0x3000)]

/-- Whether `c` is white space. -/
def isBlank (c : Char) : Bool :=
  blanks.covers c

/-- The blanks of ASCII that core knows are blanks here. -/
theorem isBlank_of_isWhitespace {c : Char} (h : c.isWhitespace) : isBlank c := by
  simp only [Char.isWhitespace, Bool.or_eq_true, decide_eq_true_eq] at h
  rcases h with ((h | h) | h) | h <;> subst h <;> decide

/-- The characters of `cs` from the first that is no blank. -/
def trimStart (cs : List Char) : List Char :=
  cs.dropWhile isBlank

/-- The characters of `cs` up to the last that is no blank. -/
def trimEnd (cs : List Char) : List Char :=
  (cs.reverse.dropWhile isBlank).reverse

/-- The text without the blanks at its two ends. -/
def trim (s : String) : String :=
  String.ofList (trimEnd (trimStart s.toList))

/-- Whether the text has nothing but blanks. -/
def isAllBlank (s : String) : Bool :=
  s.toList.all isBlank

/-- The maximal runs of characters that are no blanks. -/
def words (cs : List Char) : List (List Char) :=
  (cs.splitBy fun c d => !isBlank c && !isBlank d).filter fun run => !run.any isBlank

theorem trimStart_of_no_blank {cs : List Char} (h : ∀ c ∈ cs, isBlank c = false) :
    trimStart cs = cs := by
  cases cs with
  | nil => rfl
  | cons c cs => simp [trimStart, h c List.mem_cons_self]

theorem trim_of_no_blank {s : String} (h : ∀ c ∈ s.toList, isBlank c = false) : trim s = s := by
  have h' : ∀ c ∈ s.toList.reverse, isBlank c = false := fun c hc => h c (List.mem_reverse.1 hc)
  have hr := trimStart_of_no_blank h'
  rw [trimStart] at hr
  rw [trim, trimStart_of_no_blank h, trimEnd, hr, List.reverse_reverse, String.ofList_toList]

end Formulary.Text
