import Formulary.Stage
import Formulary.Store.Error

/-!
# Rejections

Why a request was not served, whatever part of the way it failed on: reading the program, checking
it, resolving its operands, or the store.
-/

namespace Formulary

/-- Why a request was not served. -/
inductive Rejection
  | unparsable (error : Expr.Parse.Error)
  | invalid (violation : Expr.Violation)
  | missingOperand (digest : Digest)
  | store (error : Store.Error)
  deriving DecidableEq

namespace Rejection

/-- What is said of a rejection. -/
def message [Wording] : Rejection → String
  | unparsable e => "Parsing failed: " ++ e.message
  | invalid v => "Validation failed: " ++ v.message
  | missingOperand d => "Operand does not resolve to a stored entry: " ++ d.toText
  | store e => "Store error: " ++ e.message

/-- The last stage that the request had reached. -/
def reached : Rejection → Stage
  | unparsable _ => .lexed
  | invalid _ => .parsed
  | missingOperand _ | store _ => .validated

/-- Whether what was asked for is just not there. -/
def isNotFound : Rejection → Bool
  | store (.notFound _) => true
  | _ => false

end Rejection

end Formulary
