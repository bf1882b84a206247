import Formulary.Proofs.Expr.Refusals

/-!
# Truncated programs

A program whose end is missing is reported as such. All of its tokens are taken, for with the rest
behind them they are, so what is missing is reported at the end (`exists_finish_of_prefix`). Only
the state at the end decides what it is: an error about a lambda if the end is inside of a parameter
list or right before one, and an error of syntax otherwise (`family_of_finish`). Whether it is there
can be told from the tokens alone (`inParams_iff`).
-/

namespace Formulary.Expr.Parse

open Token (Kind)

/-! ## Parameter lists that are not closed -/

/-- The tokens end after the keyword of a lambda, but before the bracket that closes its parameters.
    A keyword stands right after an opening parenthesis, and the first closing bracket after the one
    of a lambda closes its parameters. -/
def EndsInParams (ts : List Token) : Prop :=
  ∃ before opening word rest, ts = before ++ opening :: word :: rest ∧ opening.kind = .openParen ∧
    word.kind = .symbol lambdaKeyword ∧ ∀ t ∈ rest, t.kind ≠ .closeBracket

/-- The keyword of a lambda has been read, but not the whole of its parameter list. -/
def State.InParams : State → Prop
  | .lambdaHead _ _ | .lambdaParams _ _ _ => True
  | .ready _ | .lambdaEnd _ _ _ _ | .complete _ => False

variable {limit : Nat}

/-- Only a closing bracket leads out of a parameter list. -/
theorem Advance.inParams {t : Token} {state state' : State} (h : Advance limit t state state')
    (hstate : state.InParams) (ht : t.kind ≠ .closeBracket) : state'.InParams := by
  cases h with
  | openParams | param => trivial
  | closeParams hclose => exact absurd hclose ht
  | openForm | headLambda | headCond | symbol | integer | closeCond | closeApply | closeLambda =>
    cases hstate

theorem inParams_of_run {state state' : State} {ts : List Token}
    (h : run limit state ts = .ok state') (hstate : state.InParams)
    (hts : ∀ t ∈ ts, t.kind ≠ .closeBracket) : state'.InParams := by
  induction ts generalizing state with
  | nil => exact Except.ok.inj h ▸ hstate
  | cons t ts ih =>
    obtain ⟨ht, hts⟩ := List.forall_mem_cons.1 hts
    obtain ⟨next, move, h⟩ := run_cons_eq_ok_iff.1 h
    exact ih h (move.inParams hstate ht) hts

/-- The keyword of a lambda is taken for what it is wherever it comes right after an opening
    parenthesis. -/
theorem inParams_of_keyword {opening word : Token} {rest : List Token} {state state' : State}
    (h : run limit state (opening :: word :: rest) = .ok state')
    (hopening : opening.kind = .openParen) (hword : word.kind = .symbol lambdaKeyword)
    (hrest : ∀ t ∈ rest, t.kind ≠ .closeBracket) : state'.InParams := by
  obtain ⟨opened, hopen, hrun⟩ := run_cons_eq_ok_iff.1 h
  obtain ⟨headed, hhead, hrun⟩ := run_cons_eq_ok_iff.1 hrun
  refine inParams_of_run hrun ?_ hrest
  cases hopen with
  | openForm =>
    cases hhead with
    | headLambda => trivial
    | headCond ht => exact absurd (hword.symm.trans ht) (by decide)
    | symbol ht hk =>
      obtain rfl := Kind.symbol.inj (hword.symm.trans ht)
      exact absurd (by decide) (hk trivial)
    | openForm ht | integer ht => cases hword.symm.trans ht
  | headLambda ht | headCond ht | symbol ht | integer ht | closeCond ht | closeApply ht
  | openParams ht | param ht | closeParams ht | closeLambda ht => cases hopening.symm.trans ht

/-- A parameter list is being read exactly if the tokens read end in one. -/
theorem inParams_iff {state : State} {ts : List Token} (h : run limit .initial ts = .ok state) :
    state.InParams ↔ EndsInParams ts := by
  constructor
  · intro hstate
    have ends {ks ls : List Kind}
        (hread : state.read = ks ++ .openParen :: .symbol lambdaKeyword :: ls)
        (hls : .closeBracket ∉ ls) : EndsInParams ts := by
      rw [(run_initial h).1] at hread
      obtain ⟨before, _, rfl, -, hrest⟩ := List.map_eq_append_iff.1 hread
      obtain ⟨opening, _, rfl, hopening, hrest⟩ := List.map_eq_cons_iff.1 hrest
      obtain ⟨word, rest, rfl, hword, rfl⟩ := List.map_eq_cons_iff.1 hrest
      exact ⟨before, opening, word, rest, rfl, hopening, hword,
        fun t ht hkind => hls (List.mem_map.2 ⟨t, ht, hkind⟩)⟩
    cases state with
    | lambdaHead spot around => exact ends rfl List.not_mem_nil
    | lambdaParams spot params around => exact ends rfl (by simp)
    | ready | lambdaEnd | complete => cases hstate
  · rintro ⟨before, opening, word, rest, rfl, hopening, hword, hrest⟩
    obtain ⟨mid, -, hrun⟩ := run_append_eq_ok_iff.1 h
    exact inParams_of_keyword hrun hopening hword hrest

/-! ## What is missing -/

theorem family_of_finish {after : Spot} {state : State} {error : Error}
    (h : finish after state = .error error) :
    (state.InParams → error.cause.family = .malformedLambda) ∧
      (¬state.InParams → error.cause.family = .syntactic) := by
  unfold finish at h
  split at h
  · cases h
  all_goals
    obtain rfl := Except.error.inj h
    simp [State.InParams, Cause.family]

variable {maxDepth : Nat} {ts us : List Token} {e : Expr}

/-- If there is an expression with more tokens, then all tokens are read without it, and something
    is missing at the end. -/
theorem exists_finish_of_prefix (h : tokens maxDepth (ts ++ us) = .ok e) (hus : us ≠ []) :
    ∃ state error, run (min maxDepth greatestMaxDepth) .initial ts = .ok state ∧
      finish (endSpot ts) state = .error error ∧ tokens maxDepth ts = .error error := by
  cases hts : tokens maxDepth ts with
  | ok e' =>
    obtain ⟨u, us, rfl⟩ := List.exists_cons_of_ne_nil hus
    rw [tokens_append_of_ok hts] at h
    cases h
  | error error =>
    cases hout : error.cause.ranOut with
    | false =>
      rw [tokens_append_of_error hts hout] at h
      cases h
    | true =>
      obtain ⟨state, hrun, hfinish⟩ := exists_finish hts hout
      exact ⟨state, error, hrun, hfinish, rfl⟩

/-- Of a program whose end is missing, this is reported at the end of what is there: as an error
    about a lambda if it ends between the keyword of one and the end of its parameters, and
    otherwise as an error of syntax. -/
theorem truncated_at_end (h : tokens maxDepth (ts ++ us) = .ok e) (hus : us ≠ []) :
    ∃ error, tokens maxDepth ts = .error error ∧
      (ts = [] → error.spot = ⟨1, 1⟩) ∧
      (∀ before last, ts = before ++ [last] →
        error.spot = ⟨last.line, last.column + last.width⟩) ∧
      (EndsInParams ts → error.cause.family = .malformedLambda) ∧
      (¬EndsInParams ts → error.cause.family = .syntactic) := by
  obtain ⟨state, error, hrun, hfinish, hts⟩ := exists_finish_of_prefix h hus
  obtain ⟨hspot, -, -⟩ := of_finish_eq_error hfinish
  rw [← inParams_iff hrun]
  refine ⟨error, hts, ?_, ?_, family_of_finish hfinish⟩
  · rintro rfl
    exact hspot
  · rintro before last rfl
    rw [hspot, endSpot, List.getLast?_concat]

/-- An application whose argument lacks everything from its first parameter on. -/
theorem truncated_at_end_keyword : ∃ error,
    tokens 2 [⟨.openParen, 1, 1, 0, 1⟩, ⟨.symbol "f", 1, 2, 1, 1⟩, ⟨.openParen, 2, 1, 3, 1⟩,
      ⟨.symbol "lam", 2, 2, 4, 3⟩] = .error error ∧
    error.spot = ⟨2, 5⟩ ∧ error.cause.family = .malformedLambda := by
  have h : tokens 2 ([⟨.openParen, 1, 1, 0, 1⟩, ⟨.symbol "f", 1, 2, 1, 1⟩,
      ⟨.openParen, 2, 1, 3, 1⟩, ⟨.symbol "lam", 2, 2, 4, 3⟩] ++
      [⟨.openBracket, 2, 6, 8, 1⟩, ⟨.symbol "x", 2, 7, 9, 1⟩, ⟨.closeBracket, 2, 8, 10, 1⟩,
        ⟨.integer 7, 2, 10, 12, 1⟩, ⟨.closeParen, 2, 11, 13, 1⟩, ⟨.closeParen, 2, 12, 14, 1⟩]) =
      .ok (.apply (.symbol "f") [.lambda ["x"] (.integer 7)]) := by decide +kernel
  obtain ⟨error, herror, -, hspot, hparams, -⟩ := truncated_at_end h (by decide)
  exact ⟨error, herror, hspot [_, _, _] _ rfl, hparams ⟨[_, _], _, _, [], rfl, rfl, rfl, by simp⟩⟩

end Formulary.Expr.Parse
