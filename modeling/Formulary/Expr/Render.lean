import Formulary.Expr
import Formulary.Token

/-!
# The canonical text of an expression

`render` writes an expression on one line, with one space between neighbours: the text by which
check results are shown and from which a tree handed in without a source is stored. `flatten` is
the sequence of tokens that this text consists of.
-/

namespace Formulary.Expr

/-- An integer in decimal, with a minus sign if negative. -/
def renderInteger (n : Int64) : String :=
  toString n.toInt

mutual

/-- The canonical text of an expression. -/
def render : Expr → String
  | symbol name => name
  | integer value => renderInteger value
  | lambda params body =>
    "(" ++ lambdaKeyword ++ " [" ++ " ".intercalate params ++ "] " ++ body.render ++ ")"
  | cond test yes no =>
    "(" ++ condKeyword ++ " " ++ test.render ++ " " ++ yes.render ++ " " ++ no.render ++ ")"
  | apply operator args => "(" ++ operator.render ++ renderArgs args ++ ")"

/-- The texts of arguments, each after a space. -/
def renderArgs : List Expr → String
  | [] => ""
  | a :: as => " " ++ a.render ++ renderArgs as

end

instance : ToString Expr := ⟨render⟩

mutual

/-- The tokens of the canonical text. -/
def flatten : Expr → List Token.Kind
  | symbol name => [.symbol name]
  | integer value => [.integer value]
  | lambda params body =>
    .openParen :: .symbol lambdaKeyword :: .openBracket ::
      (params.map .symbol ++ .closeBracket :: (body.flatten ++ [.closeParen]))
  | cond test yes no =>
    .openParen :: .symbol condKeyword ::
      (test.flatten ++ yes.flatten ++ no.flatten ++ [.closeParen])
  | apply operator args => .openParen :: (operator.flatten ++ flattenAll args ++ [.closeParen])

/-- The tokens of expressions in a row. -/
def flattenAll : List Expr → List Token.Kind
  | [] => []
  | a :: as => a.flatten ++ flattenAll as

end

end Formulary.Expr
