import Formulary.Expr
import Formulary.Token
import Formulary.Text.Quoted

/-!
# Validity

What a tree has to keep to beyond its shape: names are symbols and no keywords, and no lambda binds
a name twice. `validate` reports the first violation met when the tree is read from left to right.
-/

namespace Formulary.Expr

/-- What is wrong with a tree. -/
inductive Violation
  | duplicateParam (name : String)
  | reservedName (name : String)
  | invalidName (name : String)
  | tooDeep (limit : Nat)
  deriving DecidableEq

/-- What is said of a violation. -/
def Violation.message : Violation → String
  | .duplicateParam name => "Duplicate lambda parameter: " ++ name
  | .reservedName name => "Reserved keyword used as a name: " ++ name
  | .invalidName name => "Not a valid symbol: " ++ Text.quoted name
  | .tooDeep limit => "Tree nests more than " ++ toString limit ++ " forms deep"

/-- A name must be no keyword, and a symbol. -/
def checkName (name : String) : Except Violation Unit :=
  if name ∈ keywords then .error (.reservedName name)
  else if Token.isSymbol name then .ok ()
  else .error (.invalidName name)

/-- The parameters of a lambda, those of `seen` standing before them, must be names and distinct. -/
def checkParams (seen : List String) : List String → Except Violation Unit
  | [] => .ok ()
  | name :: rest => do
    checkName name
    if name ∈ seen then .error (.duplicateParam name) else checkParams (name :: seen) rest

mutual

/-- The first violation in a tree, if it has one. -/
def validate : Expr → Except Violation Unit
  | symbol name => checkName name
  | integer _ => .ok ()
  | lambda params body => do
    checkParams [] params
    validate body
  | cond test yes no => do
    validate test
    validate yes
    validate no
  | apply operator args => do
    validate operator
    validateAll args

/-- The first violation in trees in a row. -/
def validateAll : List Expr → Except Violation Unit
  | [] => .ok ()
  | a :: as => do
    validate a
    validateAll as

end

end Formulary.Expr
