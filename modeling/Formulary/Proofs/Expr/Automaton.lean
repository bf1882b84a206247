import Formulary.Expr.Parse

/-!
# Reading token by token

The descent of `Formulary.Expr.Parse` keeps what it has read so far in its calls. Here it is kept in
a state: tokens are fed to it one by one (`step`), and it holds the forms still open, each with the
part of it read so far. What a truncated program lacks is read off the state it ends in (`finish`).
Both read the same, as `Formulary.Proofs.Expr.Descent` shows, and what is to be proved along the
tokens is proved here.
-/

namespace Formulary.Expr.Parse

/-- An open form that waits for an expression, by what has been read of it. -/
inductive Hole
  /-- Nothing yet. -/
  | head
  /-- A lambda with its parameters. -/
  | body (params : Array String)
  /-- A conditional with some of its three parts, or more than it should have. -/
  | branch (parts : Array Expr)
  /-- An application with its operator and some arguments. -/
  | argument (operator : Expr) (args : Array Expr)

/-- An open form: where it was opened and what it waits for. -/
structure Opening where
  spot : Spot
  hole : Hole

/-- How far reading has come. Open forms stand innermost first. -/
inductive State
  /-- An expression, or the end of the innermost open form, is to come. -/
  | ready (around : List Opening)
  /-- In the form opened at `spot`, only the keyword of a lambda has been read. -/
  | lambdaHead (spot : Spot) (around : List Opening)
  /-- The parameter list of a lambda is open. -/
  | lambdaParams (spot : Spot) (params : Array String) (around : List Opening)
  /-- A lambda is complete but for its closing parenthesis. -/
  | lambdaEnd (spot : Spot) (params : Array String) (body : Expr) (around : List Opening)
  /-- The expression is complete. -/
  | complete (e : Expr)

/-- The state in which nothing has been read. -/
def State.initial : State := .ready []

/-- Puts a complete expression where the innermost open form waits for one. -/
def supply (e : Expr) : List Opening → State
  | [] => .complete e
  | ⟨spot, .head⟩ :: around => .ready (⟨spot, .argument e #[]⟩ :: around)
  | ⟨spot, .body params⟩ :: around => .lambdaEnd spot params e around
  | ⟨spot, .branch parts⟩ :: around => .ready (⟨spot, .branch (parts.push e)⟩ :: around)
  | ⟨spot, .argument operator args⟩ :: around =>
    .ready (⟨spot, .argument operator (args.push e)⟩ :: around)

/-- Reads a symbol: a keyword at the head of a form settles its kind. -/
def readSymbol (name : String) : List Opening → State
  | ⟨spot, .head⟩ :: around =>
    if name = lambdaKeyword then .lambdaHead spot around
    else if name = condKeyword then .ready (⟨spot, .branch #[]⟩ :: around)
    else supply (.symbol name) (⟨spot, .head⟩ :: around)
  | around => supply (.symbol name) around

/-- Reads a closing parenthesis at `spot`. -/
def close (spot : Spot) : List Opening → Except Error State
  | [] => .error ⟨.unmatchedParen, spot⟩
  | ⟨opened, .head⟩ :: _ => .error ⟨.emptyForm, opened⟩
  | ⟨_, .body _⟩ :: _ => .error ⟨.noBody, spot⟩
  | ⟨opened, .branch parts⟩ :: around =>
    match parts.toList with
    | [test, yes, no] => .ok (supply (.cond test yes no) around)
    | parts => .error ⟨.branches parts.length, opened⟩
  | ⟨_, .argument operator args⟩ :: around => .ok (supply (.apply operator args.toList) around)

/-- Reads a recognized token at `spot` when an expression or a closing parenthesis is to come. -/
def stepReady (limit : Nat) (around : List Opening) (spot : Spot) :
    Token.Kind → Except Error State
  | .openParen =>
    if around.length < limit then .ok (.ready (⟨spot, .head⟩ :: around))
    else .error ⟨.tooDeep limit, spot⟩
  | .closeParen => close spot around
  | .openBracket => .error ⟨.strayBracket, spot⟩
  | .closeBracket => .error ⟨.unmatchedBracket, spot⟩
  | .symbol name => .ok (readSymbol name around)
  | .integer value => .ok (supply (.integer value) around)
  | .unrecognized text => .error ⟨.unrecognized text, spot⟩

/-- Reads one token, at most `limit` forms being allowed to be open. -/
def step (limit : Nat) (state : State) (t : Token) : Except Error State :=
  let spot := Spot.of t
  match state, t.kind with
  | .complete _, kind => .error ⟨.trailing kind, spot⟩
  | _, .unrecognized text => .error ⟨.unrecognized text, spot⟩
  | .ready around, kind => stepReady limit around spot kind
  | .lambdaHead opened around, .openBracket => .ok (.lambdaParams opened #[] around)
  | .lambdaHead _ _, kind => .error ⟨.noParams (some kind), spot⟩
  | .lambdaParams opened params around, .symbol name =>
    .ok (.lambdaParams opened (params.push name) around)
  | .lambdaParams opened params around, .closeBracket =>
    .ok (.ready (⟨opened, .body params⟩ :: around))
  | .lambdaParams _ _ _, kind => .error ⟨.badParam kind, spot⟩
  | .lambdaEnd _ params body around, .closeParen =>
    .ok (supply (.lambda params.toList body) around)
  | .lambdaEnd _ _ _ _, _ => .error ⟨.secondBody, spot⟩

/-- The expression that the tokens made up, or what they lack, reported at the spot `after` the
    last of them. -/
def finish (after : Spot) : State → Except Error Expr
  | .complete e => .ok e
  | .ready [] => .error ⟨.missingExpression, after⟩
  | .ready (opening :: _) => .error ⟨.unclosed opening.spot, after⟩
  | .lambdaHead _ _ => .error ⟨.noParams none, after⟩
  | .lambdaParams _ _ _ => .error ⟨.unclosedParams, after⟩
  | .lambdaEnd opened _ _ _ => .error ⟨.unclosed opened, after⟩

/-- The spot just past the last token, or the first of all if there is none. -/
def endSpot (ts : List Token) : Spot :=
  match ts.getLast? with
  | some t => ⟨t.line, t.column + t.width⟩
  | none => ⟨1, 1⟩

/-- The state after the tokens. -/
def run (limit : Nat) (state : State) (ts : List Token) : Except Error State :=
  ts.foldlM (step limit) state

end Formulary.Expr.Parse
