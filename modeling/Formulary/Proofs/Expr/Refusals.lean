import Formulary.Proofs.Expr.Grammar

/-!
# How reading fails

Reading fails at a token that the state refuses, or because the tokens run out before there is an
expression. `Refuse` lists the tokens that a state refuses and what is reported of them, as
`Advance` lists those that it takes; what holds of all errors about a token can be proved on it,
case by case.

* `refuse_of_step`, `step_of_refuse`: the automaton refuses these tokens and no others;
* `tokens_error_cases`: an error is about a token or about the end, and its cause tells which;
* `settled_by_tokens`: the tokens after a refused one are not looked at, so such an error is final,
  while one about the end of the tokens is not.
-/

namespace Formulary.Expr.Parse

/-! ## Refused tokens -/

/-- Reading the token `t`, at most `limit` forms being allowed to be open, fails in a state with an
    error. -/
inductive Refuse (limit : Nat) (t : Token) : State → Error → Prop
  | tooDeep {around : List Opening} (ht : t.kind = .openParen) (h : limit ≤ around.length) :
    Refuse limit t (.ready around) ⟨.tooDeep limit, Spot.of t⟩
  | strayBracket {around : List Opening} (ht : t.kind = .openBracket) :
    Refuse limit t (.ready around) ⟨.strayBracket, Spot.of t⟩
  | unmatchedBracket {around : List Opening} (ht : t.kind = .closeBracket) :
    Refuse limit t (.ready around) ⟨.unmatchedBracket, Spot.of t⟩
  | unmatchedParen (ht : t.kind = .closeParen) :
    Refuse limit t (.ready []) ⟨.unmatchedParen, Spot.of t⟩
  | emptyForm {opened : Spot} {around : List Opening} (ht : t.kind = .closeParen) :
    Refuse limit t (.ready (⟨opened, .head⟩ :: around)) ⟨.emptyForm, opened⟩
  | noBody {opened : Spot} {params : Array String} {around : List Opening}
    (ht : t.kind = .closeParen) :
    Refuse limit t (.ready (⟨opened, .body params⟩ :: around)) ⟨.noBody, Spot.of t⟩
  | branches {opened : Spot} {parts : Array Expr} {around : List Opening}
    (ht : t.kind = .closeParen) (h : parts.toList.length ≠ 3) :
    Refuse limit t (.ready (⟨opened, .branch parts⟩ :: around))
      ⟨.branches parts.toList.length, opened⟩
  | unrecognized {state : State} {text : String} (ht : t.kind = .unrecognized text)
    (h : ∀ e, state ≠ .complete e) : Refuse limit t state ⟨.unrecognized text, Spot.of t⟩
  | noParams {opened : Spot} {around : List Opening} (ht : ∀ text, t.kind ≠ .unrecognized text)
    (h : t.kind ≠ .openBracket) :
    Refuse limit t (.lambdaHead opened around) ⟨.noParams (some t.kind), Spot.of t⟩
  | badParam {opened : Spot} {params : Array String} {around : List Opening}
    (ht : ∀ text, t.kind ≠ .unrecognized text) (h : t.kind ≠ .closeBracket)
    (hs : ∀ name, t.kind ≠ .symbol name) :
    Refuse limit t (.lambdaParams opened params around) ⟨.badParam t.kind, Spot.of t⟩
  | secondBody {opened : Spot} {params : Array String} {body : Expr} {around : List Opening}
    (ht : ∀ text, t.kind ≠ .unrecognized text) (h : t.kind ≠ .closeParen) :
    Refuse limit t (.lambdaEnd opened params body around) ⟨.secondBody, Spot.of t⟩
  | trailing {e : Expr} : Refuse limit t (.complete e) ⟨.trailing t.kind, Spot.of t⟩

variable {limit : Nat} {t : Token} {state : State} {error : Error}

theorem refuse_of_close {around : List Opening} (ht : t.kind = .closeParen)
    (h : close (Spot.of t) around = .error error) : Refuse limit t (.ready around) error := by
  unfold close at h
  split at h
  · exact Except.error.inj h ▸ .unmatchedParen ht
  · exact Except.error.inj h ▸ .emptyForm ht
  · exact Except.error.inj h ▸ .noBody ht
  · split at h
    · cases h
    · next hparts =>
      refine Except.error.inj h ▸ .branches ht fun hlength => ?_
      obtain ⟨test, yes, no, heq⟩ := List.length_eq_three.1 hlength
      exact hparts test yes no heq
  · cases h

theorem refuse_of_stepReady {around : List Opening}
    (h : stepReady limit around (Spot.of t) t.kind = .error error) :
    Refuse limit t (.ready around) error := by
  generalize ht : t.kind = kind at h
  cases kind with
  | openParen =>
    simp only [stepReady] at h
    split_ifs at h with hl
    exact Except.error.inj h ▸ .tooDeep ht (Nat.not_lt.1 hl)
  | closeParen => exact refuse_of_close ht h
  | openBracket => exact Except.error.inj h ▸ .strayBracket ht
  | closeBracket => exact Except.error.inj h ▸ .unmatchedBracket ht
  | symbol | integer => cases h
  | unrecognized => exact Except.error.inj h ▸ .unrecognized ht (by simp)

/-- The automaton refuses no other tokens. -/
theorem refuse_of_step (h : step limit state t = .error error) : Refuse limit t state error := by
  unfold step at h
  split at h
  · exact Except.error.inj h ▸ .trailing
  · next hcomplete ht => exact Except.error.inj h ▸ .unrecognized ht fun e => hcomplete e
  · exact refuse_of_stepReady h
  · cases h
  · next ht hne => exact Except.error.inj h ▸ .noParams ht hne
  · cases h
  · cases h
  · next ht hs hne => exact Except.error.inj h ▸ .badParam ht hne hs
  · cases h
  · next ht hne => exact Except.error.inj h ▸ .secondBody ht hne

theorem close_branch {parts : Array Expr} (h : parts.toList.length ≠ 3) (spot opened : Spot)
    (around : List Opening) : close spot (⟨opened, .branch parts⟩ :: around) =
      .error ⟨.branches parts.toList.length, opened⟩ := by
  simp only [close]
  split
  · next heq => simp [heq] at h
  · rfl

/-- The automaton refuses all of these tokens. -/
theorem step_of_refuse (h : Refuse limit t state error) : step limit state t = .error error := by
  cases h with
  | tooDeep ht h => simp [step, stepReady, ht, Nat.not_lt.2 h]
  | strayBracket ht | unmatchedBracket ht => simp [step, stepReady, ht]
  | unmatchedParen ht | emptyForm ht | noBody ht => simp [step, stepReady, close, ht]
  | branches ht h => simp only [step, stepReady, ht, close_branch h]
  | unrecognized ht h =>
    cases state with
    | complete e => exact absurd rfl (h e)
    | ready | lambdaHead | lambdaParams | lambdaEnd => simp [step, ht]
  | noParams ht h | badParam ht h | secondBody ht h => simp only [step]
  | trailing => rfl

/-- A run fails at the first token that is refused. -/
theorem run_eq_error_iff {ts : List Token} : run limit state ts = .error error ↔
    ∃ before t after next, ts = before ++ t :: after ∧ run limit state before = .ok next ∧
      Refuse limit t next error := by
  constructor
  · intro h
    induction ts generalizing state with
    | nil => cases h
    | cons t ts ih =>
      rw [run_cons] at h
      cases hstep : step limit state t with
      | error =>
        rw [hstep] at h
        exact ⟨[], t, ts, state, rfl, rfl, refuse_of_step (hstep.trans h)⟩
      | ok next =>
        rw [hstep] at h
        obtain ⟨before, u, after, last, rfl, hrun, hrefuse⟩ := ih h
        exact ⟨t :: before, u, after, last, rfl,
          run_cons_eq_ok_iff.2 ⟨next, advance_of_step hstep, hrun⟩, hrefuse⟩
  · rintro ⟨before, t, after, next, rfl, hrun, hrefuse⟩
    rw [run_append_of_run hrun, run_cons, step_of_refuse hrefuse]
    rfl

/-! ## Running out of tokens -/

/-- Whether a cause is reported because the tokens ran out. -/
def Cause.ranOut : Cause → Bool
  | .missingExpression | .unclosed _ | .noParams none | .unclosedParams => true
  | _ => false

theorem Cause.ranOut_of_nestingTooDeep {cause : Cause} (h : cause.family = .nestingTooDeep) :
    cause.ranOut = false := by
  cases cause with
  | tooDeep => rfl
  | missingExpression | unmatchedParen | strayBracket | unmatchedBracket | unrecognized | unclosed
  | emptyForm | trailing | noParams | badParam | unclosedParams | noBody | secondBody | branches =>
    cases h

theorem Refuse.ranOut_eq_false (h : Refuse limit t state error) : error.cause.ranOut = false := by
  cases h <;> rfl

/-- What is missing at the end is reported there. -/
theorem of_finish_eq_error {after : Spot} (h : finish after state = .error error) :
    error.spot = after ∧ error.cause.ranOut = true ∧ ∀ e, state ≠ .complete e := by
  unfold finish at h
  split at h
  · cases h
  all_goals exact Except.error.inj h ▸ ⟨rfl, rfl, by simp⟩

variable {maxDepth : Nat} {ts : List Token}

theorem tokens_of_run_error (h : run (min maxDepth greatestMaxDepth) .initial ts = .error error) :
    tokens maxDepth ts = .error error := by
  rw [tokens_eq, h]
  rfl

/-- Reading fails at a token, or all tokens are read and something is missing at the end. -/
theorem tokens_error_cases (h : tokens maxDepth ts = .error error) :
    run (min maxDepth greatestMaxDepth) .initial ts = .error error ∧ error.cause.ranOut = false ∨
      ∃ state, run (min maxDepth greatestMaxDepth) .initial ts = .ok state ∧
        finish (endSpot ts) state = .error error ∧ error.cause.ranOut = true := by
  rw [tokens_eq] at h
  cases hrun : run (min maxDepth greatestMaxDepth) .initial ts with
  | error =>
    rw [hrun] at h
    obtain rfl := Except.error.inj h
    obtain ⟨_, _, _, _, _, _, hrefuse⟩ := run_eq_error_iff.1 hrun
    exact .inl ⟨rfl, hrefuse.ranOut_eq_false⟩
  | ok state =>
    rw [hrun] at h
    exact .inr ⟨state, rfl, h, (of_finish_eq_error h).2.1⟩

/-- Unless the tokens ran out, there is one that is refused. -/
theorem exists_refuse (h : tokens maxDepth ts = .error error) (hout : error.cause.ranOut = false) :
    ∃ before t after state, ts = before ++ t :: after ∧
      run (min maxDepth greatestMaxDepth) .initial before = .ok state ∧
      Refuse (min maxDepth greatestMaxDepth) t state error := by
  rcases tokens_error_cases h with ⟨hrun, -⟩ | ⟨_, -, -, htrue⟩
  · exact run_eq_error_iff.1 hrun
  · cases hout.symm.trans htrue

/-- If the tokens ran out, all of them are taken. -/
theorem exists_finish (h : tokens maxDepth ts = .error error) (hout : error.cause.ranOut = true) :
    ∃ state, run (min maxDepth greatestMaxDepth) .initial ts = .ok state ∧
      finish (endSpot ts) state = .error error := by
  rcases tokens_error_cases h with ⟨-, hfalse⟩ | ⟨state, hrun, hfinish, -⟩
  · cases hout.symm.trans hfalse
  · exact ⟨state, hrun, hfinish⟩

/-- What comes after a refused token does not matter. -/
theorem tokens_of_refuse {before : List Token}
    (hrun : run (min maxDepth greatestMaxDepth) .initial before = .ok state)
    (h : Refuse (min maxDepth greatestMaxDepth) t state error) (after : List Token) :
    tokens maxDepth (before ++ t :: after) = .error error :=
  tokens_of_run_error (run_eq_error_iff.2 ⟨before, t, after, state, rfl, hrun, h⟩)

/-! ## What is settled -/

theorem tokens_append_of_error (h : tokens maxDepth ts = .error error)
    (hout : error.cause.ranOut = false) (us : List Token) :
    tokens maxDepth (ts ++ us) = .error error := by
  obtain ⟨before, t, after, state, rfl, hrun, hrefuse⟩ := exists_refuse h hout
  rw [List.append_assoc, List.cons_append]
  exact tokens_of_refuse hrun hrefuse (after ++ us)

/-- If the tokens ran out then the next one is looked at, and refused if it is none of the
    language. -/
theorem tokens_append_unrecognized (h : tokens maxDepth ts = .error error)
    (hout : error.cause.ranOut = true) {u : Token} {text : String}
    (hu : u.kind = .unrecognized text) (us : List Token) :
    tokens maxDepth (ts ++ u :: us) = .error ⟨.unrecognized text, Spot.of u⟩ := by
  obtain ⟨state, hrun, hfinish⟩ := exists_finish h hout
  obtain ⟨-, -, hcomplete⟩ := of_finish_eq_error hfinish
  exact tokens_of_refuse hrun (.unrecognized hu hcomplete) us

/-- After a complete expression the next token is one too many, whatever it is. -/
theorem tokens_append_of_ok {e : Expr} (h : tokens maxDepth ts = .ok e) (u : Token)
    (us : List Token) :
    tokens maxDepth (ts ++ u :: us) = .error ⟨.trailing u.kind, Spot.of u⟩ :=
  tokens_of_refuse (tokens_eq_ok_iff_run.1 h) .trailing us

/-- An error is the same whatever tokens follow exactly if it is not that the tokens ran out. After
    an expression, one more token is an error of syntax at this token, whatever it is and whatever
    follows it. -/
theorem settled_by_tokens (maxDepth : Nat) (ts : List Token) :
    (∀ error, (∀ us, tokens maxDepth (ts ++ us) = .error error) ↔
      tokens maxDepth ts = .error error ∧ error.cause.ranOut = false) ∧
    ∀ e, tokens maxDepth ts = .ok e → ∀ u us,
      tokens maxDepth (ts ++ u :: us) = .error ⟨.trailing u.kind, Spot.of u⟩ ∧
        (Cause.trailing u.kind).family = .syntactic := by
  refine ⟨fun error => ⟨fun h => ?_, fun ⟨h, hout⟩ => tokens_append_of_error h hout⟩,
    fun e he u us => ⟨tokens_append_of_ok he u us, rfl⟩⟩
  have hts : tokens maxDepth ts = .error error := by simpa using h []
  refine ⟨hts, Bool.eq_false_iff.2 fun hout => ?_⟩
  -- with a token that is none of the language behind them, the tokens no longer run out
  have hstrange := tokens_append_unrecognized hts hout (u := ⟨.unrecognized "", 1, 1, 0, 0⟩) rfl []
  rw [h] at hstrange
  rw [Except.error.inj hstrange] at hout
  cases hout

/-- A keyword with no parameter list behind it, and a form that lacks its end. -/
theorem settled_by_tokens_keyword :
    tokens 3 ([⟨.openParen, 1, 1, 0, 1⟩, ⟨.symbol "lam", 1, 2, 1, 3⟩, ⟨.integer 7, 1, 6, 5, 1⟩] ++
      [⟨.unrecognized "$", 2, 1, 7, 1⟩]) = .error ⟨.noParams (some (.integer 7)), ⟨1, 6⟩⟩ ∧
    tokens 3 ([⟨.symbol "x", 1, 1, 0, 1⟩] ++ [⟨.unrecognized "$", 1, 3, 2, 1⟩]) =
      .error ⟨.trailing (.unrecognized "$"), ⟨1, 3⟩⟩ := by
  constructor
  · exact ((settled_by_tokens 3 _).1 _).2 ⟨by decide +kernel, rfl⟩ _
  · exact ((settled_by_tokens 3 _).2 (.symbol "x") (by decide +kernel) _ []).1

end Formulary.Expr.Parse
