import Formulary.Expr
import Formulary.Token

/-!
# Reading expressions from tokens

An expression is read by recursive descent, one function for each kind of form, with one token to
look ahead. A `Cursor` goes along the tokens; each function gives the cursor after what it has read,
which is beyond the one it started from, so the descent comes to an end.

The words `lam` and `if` are keywords as the first word of a form only; elsewhere they are read as
symbols, for `Expr.validate` to reject. Forms may nest up to a limit.

* `Parse.tokens` reads one expression from tokens, `parse` from a source.
-/

namespace Formulary.Expr

/-- The limit on nested forms when none is asked for. -/
def defaultMaxDepth : Nat := 32

/-- The greatest limit on nested forms; a greater one that is asked for counts as this. -/
def greatestMaxDepth : Nat := 40

namespace Parse

/-- The line and column of a token. -/
structure Spot where
  line : Nat
  column : Nat
  deriving DecidableEq

/-- The spot where a token starts. -/
def Spot.of (t : Token) : Spot := ⟨t.line, t.column⟩

/-- Why tokens are no expression. -/
inductive Cause
  | missingExpression
  | unmatchedParen
  | strayBracket
  | unmatchedBracket
  | unrecognized (text : String)
  | unclosed (opened : Spot)
  | emptyForm
  | trailing (found : Token.Kind)
  | noParams (found : Option Token.Kind)
  | badParam (found : Token.Kind)
  | unclosedParams
  | noBody
  | secondBody
  | branches (found : Nat)
  | tooDeep (limit : Nat)
  deriving DecidableEq

/-- The four families of parse errors. -/
inductive Family
  | syntactic
  | malformedLambda
  | malformedIf
  | nestingTooDeep
  deriving DecidableEq

/-- A parse error: the cause and the spot it is reported at. -/
structure Error where
  cause : Cause
  spot : Spot
  deriving DecidableEq

namespace Cause

/-- The family that a cause belongs to. -/
def family : Cause → Family
  | noParams _ | badParam _ | unclosedParams | noBody | secondBody => .malformedLambda
  | branches _ => .malformedIf
  | tooDeep _ => .nestingTooDeep
  | _ => .syntactic

/-- What is said of a cause, its family and spot aside. -/
def detail : Cause → String
  | missingExpression => "expected an expression, found end of input"
  | unmatchedParen => "unmatched ')'"
  | strayBracket => "'[' may only open a lambda parameter list"
  | unmatchedBracket => "unmatched ']'"
  | unrecognized text => "unrecognized token `" ++ text ++ "`"
  | unclosed opened =>
    "unclosed '(' opened at line " ++ toString opened.line ++ ", column " ++ toString opened.column
  | emptyForm => "empty form '()'"
  | trailing found => "unexpected " ++ found.describe ++ " after a complete expression"
  | noParams found =>
    "expected '[' to open the parameter list, found " ++
      (match found with
        | some kind => kind.describe
        | none => "end of input")
  | badParam found => "parameters must be symbols, found " ++ found.describe
  | unclosedParams => "unclosed parameter list"
  | noBody => "missing lambda body"
  | secondBody => "a lambda takes exactly one body expression"
  | branches found =>
    "expected a condition, a then branch and an else branch, found " ++ toString found ++
      " sub-expression" ++ (if found = 1 then "" else "s")
  | tooDeep limit => "Forms nested deeper than " ++ toString limit ++ " levels"

end Cause

/-- What is said of a parse error. -/
def Error.message (e : Error) : String :=
  let spot := " at line " ++ toString e.spot.line ++ ", column " ++ toString e.spot.column
  match e.cause.family with
  | .syntactic => "Syntax error" ++ spot ++ ": " ++ e.cause.detail
  | .malformedLambda => "Malformed lambda" ++ spot ++ ": " ++ e.cause.detail
  | .malformedIf => "Malformed if" ++ spot ++ ": " ++ e.cause.detail
  | .nestingTooDeep => e.cause.detail ++ spot

/-! ## Reading -/

/-- How far reading has come: the tokens that are left, how many forms are open, and the spot just
    past the last token that was taken, or the first spot of all. -/
structure Cursor where
  rest : List Token
  depth : Nat
  past : Spot

/-- A cursor with fewer tokens left. -/
abbrev Cursor.Beyond (c : Cursor) : Type :=
  {d : Cursor // d.rest.length < c.rest.length}

namespace Cursor

/-- Where reading starts. -/
def start (ts : List Token) : Cursor := ⟨ts, 0, ⟨1, 1⟩⟩

/-- A cursor beyond one that is beyond `c`. -/
def Beyond.trans {c : Cursor} (d : c.Beyond) (e : d.val.Beyond) : c.Beyond :=
  ⟨e.val, Nat.lt_trans e.property d.property⟩

/-- A form has been opened. -/
def deeper (c : Cursor) : Cursor := { c with depth := c.depth + 1 }

/-- The form that was opened last has been closed. -/
def shallower (c : Cursor) : Cursor := { c with depth := c.depth - 1 }

/-- The next token, if there is one, and the cursor after it. Whoever only looks at the token goes
    on from the old cursor. -/
def next (c : Cursor) : Except Error (Option (Token × c.Beyond)) :=
  match h : c.rest with
  | [] => .ok none
  | t :: rest =>
    match t.kind with
    | .unrecognized text => .error ⟨.unrecognized text, Spot.of t⟩
    | _ => .ok (some (t, ⟨{ c with rest, past := ⟨t.line, t.column + t.width⟩ }, by simp [h]⟩))

end Cursor

/-- The names up to the bracket that closes a parameter list. -/
def params (c : Cursor) : Except Error (List String × c.Beyond) := do
  match ← c.next with
  | none => throw ⟨.unclosedParams, c.past⟩
  | some (t, d) =>
    match t.kind with
    | .symbol name =>
      let (names, e) ← params d
      return (name :: names, d.trans e)
    | .closeBracket => return ([], d)
    | kind => throw ⟨.badParam kind, Spot.of t⟩
termination_by c.rest.length
decreasing_by exact d.property

/-- The parameters of a lambda whose keyword has been read. -/
def paramList (c : Cursor) : Except Error (List String × c.Beyond) := do
  match ← c.next with
  | none => throw ⟨.noParams none, c.past⟩
  | some (t, d) =>
    match t.kind with
    | .openBracket =>
      let (names, e) ← params d
      return (names, d.trans e)
    | kind => throw ⟨.noParams (some kind), Spot.of t⟩

mutual

/-- Reads an expression, at most `limit` forms being allowed to be open. -/
def expression (limit : Nat) (c : Cursor) : Except Error (Expr × c.Beyond) := do
  match ← c.next with
  | none => throw ⟨.missingExpression, c.past⟩
  | some (t, d) =>
    match t.kind with
    | .symbol name => return (.symbol name, d)
    | .integer value => return (.integer value, d)
    | .openParen =>
      if limit < d.val.deeper.depth then throw ⟨.tooDeep limit, Spot.of t⟩
      let (e, closed) ← form limit t d.val.deeper
      return (e, d.trans ⟨closed.val.shallower, closed.property⟩)
    | .closeParen => throw ⟨.unmatchedParen, Spot.of t⟩
    | .openBracket => throw ⟨.strayBracket, Spot.of t⟩
    | .closeBracket => throw ⟨.unmatchedBracket, Spot.of t⟩
    | .unrecognized text => throw ⟨.unrecognized text, Spot.of t⟩
termination_by 3 * c.rest.length
decreasing_by
  have := d.property
  simp only [Cursor.deeper]
  omega

/-- Reads a form whose opening parenthesis has been read. Its first word may be a keyword. -/
def form (limit : Nat) (opening : Token) (c : Cursor) : Except Error (Expr × c.Beyond) := do
  match ← c.next with
  | none => throw ⟨.unclosed (Spot.of opening), c.past⟩
  | some (t, d) =>
    if t.kind = .closeParen then throw ⟨.emptyForm, Spot.of opening⟩
    else if t.kind = .symbol lambdaKeyword then
      let (e, closed) ← lambda limit opening d
      return (e, d.trans closed)
    else if t.kind = .symbol condKeyword then
      let (e, closed) ← cond limit opening d
      return (e, d.trans closed)
    else
      -- the token belongs to the operator
      let (operator, d) ← expression limit c
      let (args, closed) ← items limit opening d
      return (.apply operator args, d.trans closed)
termination_by 3 * c.rest.length + 1
decreasing_by
  · have := d.property
    omega
  · have := d.property
    omega
  · omega
  · have := d.property
    omega

/-- Reads what comes after the keyword of a lambda. -/
def lambda (limit : Nat) (opening : Token) (c : Cursor) : Except Error (Expr × c.Beyond) := do
  let (names, d) ← paramList c
  match ← d.val.next with
  | none => throw ⟨.unclosed (Spot.of opening), d.val.past⟩
  | some (t, _) =>
    if t.kind = .closeParen then throw ⟨.noBody, Spot.of t⟩
    let (body, e) ← expression limit d
    match ← e.val.next with
    | none => throw ⟨.unclosed (Spot.of opening), e.val.past⟩
    | some (t, closed) =>
      if t.kind = .closeParen then return (.lambda names body, (d.trans e).trans closed)
      else throw ⟨.secondBody, Spot.of t⟩
termination_by 3 * c.rest.length + 1
decreasing_by
  have := d.property
  omega

/-- Reads what comes after the keyword of a conditional. How many parts it has is looked at when all
    of them are read. -/
def cond (limit : Nat) (opening : Token) (c : Cursor) : Except Error (Expr × c.Beyond) := do
  match ← items limit opening c with
  | ([test, yes, no], closed) => return (.cond test yes no, closed)
  | (parts, _) => throw ⟨.branches parts.length, Spot.of opening⟩
termination_by 3 * c.rest.length + 2
decreasing_by omega

/-- Reads expressions up to the parenthesis that closes a form. -/
def items (limit : Nat) (opening : Token) (c : Cursor) : Except Error (List Expr × c.Beyond) := do
  match ← c.next with
  | none => throw ⟨.unclosed (Spot.of opening), c.past⟩
  | some (t, closed) =>
    if t.kind = .closeParen then return ([], closed)
    else
      let (e, d) ← expression limit c
      let (es, closed) ← items limit opening d
      return (e :: es, d.trans closed)
termination_by 3 * c.rest.length + 1
decreasing_by
  · omega
  · have := d.property
    omega

end

/-- The expression that the tokens are, at most `maxDepth` forms nesting. -/
def tokens (maxDepth : Nat) (ts : List Token) : Except Error Expr := do
  let (e, c) ← expression (min maxDepth greatestMaxDepth) (.start ts)
  match c.val.rest with
  | [] => return e
  | t :: _ => throw ⟨.trailing t.kind, Spot.of t⟩

end Parse

/-- The expression that a source is, at most `maxDepth` forms nesting. -/
def parse (maxDepth : Nat) (source : String) : Except Parse.Error Expr :=
  Parse.tokens maxDepth (Token.tokenize source)

end Formulary.Expr
