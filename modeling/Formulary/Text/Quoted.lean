import Formulary.Text.Printable

/-!
# Quoted text

How a text or a character is put between quotes in a message: what would break the line, hide or
attach to the quote is escaped, all else stands as it is.
-/

namespace Formulary.Text

/-- The digits of `n` to base sixteen, in lower case. -/
def hexDigits (n : Nat) : List Char :=
  Nat.toDigits 16 n

/-- How `c` is shown between two quotes `mark`. -/
def escape (mark c : Char) : List Char :=
  if c = '\x00' then ['\\', '0']
  else if c = '\t' then ['\\', 't']
  else if c = '\r' then ['\\', 'r']
  else if c = '\n' then ['\\', 'n']
  else if c = '\\' ∨ c = mark then ['\\', c]
  else if isExtending c || !isPrintable c then
    ['\\', 'u', '\x7b'] ++ hexDigits c.toNat ++ ['\x7d']
  else [c]

/-- A text between double quotes. -/
def quoted (s : String) : String :=
  String.ofList ('"' :: s.toList.flatMap (escape '"') ++ ['"'])

/-- A path between double quotes: no quote of either kind stands as it is. -/
def quotedPath (path : String) : String :=
  let shown (c : Char) := if c = '\'' then escape '\'' c else escape '"' c
  String.ofList ('"' :: path.toList.flatMap shown ++ ['"'])

/-- A character between single quotes. -/
def quotedChar (c : Char) : String :=
  String.ofList ('\'' :: escape '\'' c ++ ['\''])

end Formulary.Text
