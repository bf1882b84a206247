/-!
# Lines

An input is read line by line. A line ends with a line feed, which a carriage return may stand
before; the last one may lack it.
-/

namespace Formulary.Text

/-- A line without the carriage return at its end. -/
def withoutReturn (line : List Char) : List Char :=
  if line.getLast? = some '\r' then line.dropLast else line

/-- The lines of some characters, the first of which starts with `begun`, in reverse. -/
def linesFrom (begun : List Char) : List Char → List (List Char)
  | [] => if begun.isEmpty then [] else [begun.reverse]
  | c :: cs =>
    if c = '\n' then withoutReturn begun.reverse :: linesFrom [] cs else linesFrom (c :: begun) cs

/-- The lines of a text. -/
def lines (s : String) : List String :=
  (linesFrom [] s.toList).map String.ofList

end Formulary.Text
