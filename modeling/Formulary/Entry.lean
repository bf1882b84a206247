import Formulary.Digest
import Formulary.Expr.Parse
import Formulary.Expr.Validity

/-!
# Entries

An entry is a program as it was submitted, the tree it was read to, and the digests of the entries
it was submitted against. `verify` derives the tree from the text again: what is stored is trusted
no further than that.
-/

namespace Formulary

/-- A stored program. -/
structure Entry where
  /-- The source text, kept as it was submitted. -/
  operator : String
  /-- The tree of the source. -/
  parsed : Expr
  /-- The digests of the entries that this one was submitted against. -/
  operands : List Digest
  deriving DecidableEq

namespace Entry

/-- Why the text and the tree of an entry do not go together. -/
inductive Mismatch
  | unparsable (error : Expr.Parse.Error)
  | invalid (violation : Expr.Violation)
  | otherTree (operator : String)
  deriving DecidableEq

/-- What is said of a mismatch. -/
def Mismatch.message : Mismatch → String
  | .unparsable e => "stored operator no longer parses: " ++ e.message
  | .invalid v => "stored operator no longer validates: " ++ v.message
  | .otherTree operator => "stored tree does not match operator `" ++ operator ++ "`"

/-- The text must still be a valid program, and its tree the stored one. -/
def verify (maxDepth : Nat) (entry : Entry) : Except Mismatch Unit :=
  match Expr.parse maxDepth entry.operator with
  | .error e => .error (.unparsable e)
  | .ok tree =>
    match Expr.validate tree with
    | .error v => .error (.invalid v)
    | .ok () => if tree = entry.parsed then .ok () else .error (.otherTree entry.operator)

end Entry

end Formulary
