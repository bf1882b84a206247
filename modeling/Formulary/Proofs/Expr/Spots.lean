import Formulary.Expr.Validity
import Formulary.Proofs.Expr.Grammar
import Formulary.Proofs.Token.Layout

/-!
# Reading without spots

The automaton copies the spots of tokens to its state and to its errors, and looks at them nowhere.
So reading tokens with all spots taken away is reading them and taking the spots away afterwards
(`step_unplaced`, `run_unplaced`), and what is read hangs on the kinds of the tokens alone.

* `tokens_congr`: tokens of the same kinds make up the same tree, or fail for the same cause;
* `parse_layout`: so do two texts that lay out the same lexemes.
-/

namespace Formulary.Expr.Parse

open Token (Kind Layout)

/-! ## Taking spots away -/

/-- The spot that stands for any. -/
def Spot.nowhere : Spot := ⟨1, 1⟩

/-- A token of some kind, that stands nowhere. -/
def bare (kind : Kind) : Token := ⟨kind, 1, 1, 0, 0⟩

/-- An open form wherever it was opened. -/
def Opening.unplaced (opening : Opening) : Opening := ⟨.nowhere, opening.hole⟩

/-- A state wherever the tokens stand. -/
def State.unplaced : State → State
  | .ready around => .ready (around.map Opening.unplaced)
  | .lambdaHead _ around => .lambdaHead .nowhere (around.map Opening.unplaced)
  | .lambdaParams _ params around => .lambdaParams .nowhere params (around.map Opening.unplaced)
  | .lambdaEnd _ params body around =>
    .lambdaEnd .nowhere params body (around.map Opening.unplaced)
  | .complete e => .complete e

/-- A cause wherever the tokens stand. -/
def Cause.unplaced : Cause → Cause
  | .unclosed _ => .unclosed .nowhere
  | cause => cause

/-- An error wherever it is reported. -/
def Error.unplaced (error : Error) : Error := ⟨error.cause.unplaced, .nowhere⟩

/-- What becomes of a state, wherever the tokens stand. -/
def unplaced : Except Error State → Except Error State
  | .ok state => .ok state.unplaced
  | .error error => .error error.unplaced

@[simp] theorem unplaced_ok (state : State) : unplaced (.ok state) = .ok state.unplaced := rfl

/-- The family of a cause hangs on no spot. -/
@[simp] theorem Cause.family_unplaced (cause : Cause) : cause.unplaced.family = cause.family := by
  cases cause <;> rfl

/-! ## One token -/

@[simp] theorem unplaced_supply (e : Expr) (around : List Opening) :
    (supply e around).unplaced = supply e (around.map Opening.unplaced) := by
  unfold supply
  -- one case for the end, and one for each hole that an expression fills
  split <;> rfl

@[simp] theorem unplaced_readSymbol (name : String) (around : List Opening) :
    (readSymbol name around).unplaced = readSymbol name (around.map Opening.unplaced) := by
  obtain _ | ⟨⟨spot, hole⟩, around⟩ := around
  · rfl
  · cases hole with
    | head =>
      simp only [readSymbol, List.map_cons, Opening.unplaced]
      split_ifs <;> rfl
    | body | branch | argument => rfl

theorem unplaced_close (spot : Spot) (around : List Opening) :
    unplaced (close spot around) = close .nowhere (around.map Opening.unplaced) := by
  obtain _ | ⟨⟨opened, hole⟩, around⟩ := around
  · rfl
  · cases hole with
    | head | body => rfl
    | branch parts =>
      simp only [close, List.map_cons, Opening.unplaced]
      split
      · simp
      · rfl
    | argument operator args =>
      simp [close, Opening.unplaced]

theorem unplaced_stepReady (limit : Nat) (around : List Opening) (spot : Spot) (kind : Kind) :
    unplaced (stepReady limit around spot kind) =
      stepReady limit (around.map Opening.unplaced) .nowhere kind := by
  cases kind with
  | openParen =>
    simp only [stepReady, List.length_map]
    split_ifs <;> rfl
  | closeParen => exact unplaced_close spot around
  | symbol name => simp [stepReady]
  | integer value => simp [stepReady]
  | openBracket | closeBracket | unrecognized => rfl

/-- Spots are copied from a token, and not looked at. -/
theorem step_unplaced (limit : Nat) (state : State) (t : Token) :
    step limit state.unplaced (bare t.kind) = unplaced (step limit state t) := by
  obtain ⟨kind, line, column, offset, length⟩ := t
  cases state with
  | ready around =>
    have h := unplaced_stepReady limit around ⟨line, column⟩ kind
    cases kind <;> exact h.symm
  | lambdaEnd opened params body around =>
    cases kind with
    | closeParen => exact congrArg Except.ok (unplaced_supply _ around).symm
    | openParen | openBracket | closeBracket | symbol | integer | unrecognized => rfl
  | lambdaHead | lambdaParams | complete => cases kind <;> rfl

/-! ## Many tokens -/

theorem run_unplaced (limit : Nat) (state : State) (ts : List Token) :
    run limit state.unplaced ((ts.map Token.kind).map bare) = unplaced (run limit state ts) := by
  induction ts generalizing state with
  | nil => rfl
  | cons t ts ih =>
    rw [List.map_cons, List.map_cons, run_cons, run_cons, step_unplaced]
    cases step limit state t with
    | error => rfl
    | ok next => exact ih next

theorem finish_unplaced (after : Spot) (state : State) :
    finish .nowhere state.unplaced = (finish after state).mapError Error.unplaced := by
  cases state with
  | ready around => cases around <;> rfl
  | lambdaHead | lambdaParams | lambdaEnd | complete => rfl

/-- What tokens are, wherever they stand, can be told from their kinds. -/
theorem mapError_tokens (maxDepth : Nat) (ts : List Token) :
    (tokens maxDepth ts).mapError Error.unplaced =
      (run (min maxDepth greatestMaxDepth) .initial ((ts.map Token.kind).map bare)).bind
        (finish .nowhere) := by
  have h := run_unplaced (min maxDepth greatestMaxDepth) .initial ts
  rw [show State.initial.unplaced = .initial from rfl] at h
  rw [h, tokens_eq]
  cases run (min maxDepth greatestMaxDepth) .initial ts with
  | error => rfl
  | ok state => exact (finish_unplaced (endSpot ts) state).symm

/-- Tokens of the same kinds make up the same tree, or they are none for the same cause. -/
theorem tokens_congr {maxDepth : Nat} {ts us : List Token}
    (h : ts.map Token.kind = us.map Token.kind) :
    (tokens maxDepth ts).mapError Error.unplaced =
      (tokens maxDepth us).mapError Error.unplaced := by
  rw [mapError_tokens, mapError_tokens, h]

theorem mapError_mapError {ε ε' ε'' α : Type} (x : Except ε α) (f : ε → ε') (g : ε' → ε'') :
    (x.mapError f).mapError g = x.mapError fun error => g (f error) := by
  cases x <;> rfl

/-- The family of an error hangs on no spot. -/
theorem mapError_family (x : Except Error Expr) :
    (x.mapError Error.unplaced).mapError (fun error => error.cause.family) =
      x.mapError fun error => error.cause.family := by
  rw [mapError_mapError]
  simp [Error.unplaced]

/-! ## Layouts -/

theorem map_kind_congr {one other : Layout} (h : one.lexemes = other.lexemes) :
    (Token.tokenize one.text).map Token.kind = (Token.tokenize other.text).map Token.kind := by
  have hkinds : ((Token.tokenize one.text).map Token.kind).map some =
      ((Token.tokenize other.text).map Token.kind).map some := by
    rw [Token.map_kind_layout, Token.map_kind_layout, h]
  exact (List.map_inj_right fun _ _ => Option.some.inj).1 hkinds

/-- How lexemes are laid out does not matter. Each of them is one token, the one that it is by
    itself, and whatever the limit on nested forms is, two layouts of the same lexemes are read as
    the same tree, with the same violations, or are rejected with errors of the same family. -/
theorem parse_layout (one other : Layout) (h : one.lexemes = other.lexemes) :
    ((Token.tokenize one.text).map Token.kind).map some = one.lexemes.map Kind.ofPiece? ∧
    (Token.tokenize one.text).map Token.kind = (Token.tokenize other.text).map Token.kind ∧
    ∀ maxDepth,
      ((parse maxDepth one.text).mapError fun error => error.cause.family) =
        ((parse maxDepth other.text).mapError fun error => error.cause.family) ∧
      (parse maxDepth one.text).toOption.map Expr.validate =
        (parse maxDepth other.text).toOption.map Expr.validate := by
  have hkinds := map_kind_congr h
  refine ⟨Token.map_kind_layout one, hkinds, fun maxDepth => ⟨?_, ?_⟩⟩
  · rw [← mapError_family, parse, tokens_congr hkinds, mapError_family, parse]
  · rw [parse, toOption_tokens_congr hkinds, parse]

/-- An application with no more blanks than it needs. -/
def tight : Layout where
  words := [⟨[], ['(']⟩, ⟨[], ['f']⟩, ⟨[' '], ['7']⟩, ⟨[], [')']⟩]
  tail := []
  isLexeme := by decide
  blank_gap := by decide
  blank_tail := by decide
  apart := by decide

/-- The same application over two lines, with an em space. -/
def loose : Layout where
  words := [⟨['\t'], ['(']⟩, ⟨[' '], ['f']⟩, ⟨['\u2003', '\n'], ['7']⟩, ⟨['\r'], [')']⟩]
  tail := ['\n']
  isLexeme := by decide
  blank_gap := by decide
  blank_tail := by decide
  apart := by decide

theorem parse_loose : tight.lexemes = loose.lexemes ∧
    ((parse 1 tight.text).mapError fun error => error.cause.family) =
      ((parse 1 loose.text).mapError fun error => error.cause.family) :=
  ⟨rfl, ((parse_layout tight loose rfl).2.2 1).1⟩

end Formulary.Expr.Parse
