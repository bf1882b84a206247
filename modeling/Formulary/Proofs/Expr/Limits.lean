import Formulary.Proofs.Expr.Openings
import Formulary.Proofs.Expr.Refusals

/-!
# Limits on nesting

The limit on nested forms is looked at in one place only: where a form is opened. So a greater limit
changes nothing about a step that the smaller one does not refuse (`step_of_le`), nor about a whole
run (`run_of_le`): a limit only ever cuts, and what it does not cut is read in the same way under
every greater one. Where it cuts, one more parenthesis is open than forms may be, for the first time
in the text (`first_beyond`).
-/

namespace Formulary.Expr

namespace Parse

open Token (openParens)

variable {limit limit' : Nat}

/-- A greater limit changes nothing, unless the smaller one is reached. -/
theorem step_of_le (hl : limit ≤ limit') (state : State) (t : Token) :
    step limit state t = .error ⟨.tooDeep limit, Spot.of t⟩ ∨
      step limit' state t = step limit state t := by
  obtain ⟨kind, line, column, offset, length⟩ := t
  cases state with
  | ready around =>
    cases kind with
    | openParen =>
      rcases Nat.lt_or_ge around.length limit with h | h
      · exact .inr (by simp [step, stepReady, h, Nat.lt_of_lt_of_le h hl])
      · exact .inl (by simp [step, stepReady, Nat.not_lt.2 h])
    | closeParen | openBracket | closeBracket | symbol | integer | unrecognized => exact .inr rfl
  | lambdaHead | lambdaParams | lambdaEnd | complete => exact .inr (by cases kind <;> rfl)

theorem run_of_le (hl : limit ≤ limit') {state : State} {ts : List Token}
    (h : ∀ error, run limit state ts = .error error → error.cause.family ≠ .nestingTooDeep) :
    run limit' state ts = run limit state ts := by
  induction ts generalizing state with
  | nil => rfl
  | cons t ts ih =>
    rw [run_cons] at h
    rw [run_cons, run_cons]
    rcases step_of_le hl state t with hdeep | hstep
    · rw [hdeep] at h
      exact absurd rfl (h _ rfl)
    · rw [hstep]
      cases hnext : step limit state t with
      | error => rfl
      | ok next =>
        rw [hnext] at h
        exact ih h

theorem tokens_of_le {m n : Nat} (hmn : m ≤ n) {ts : List Token}
    (h : ∀ error, tokens m ts = .error error → error.cause.family ≠ .nestingTooDeep) :
    tokens n ts = tokens m ts := by
  have hle : min m greatestMaxDepth ≤ min n greatestMaxDepth := by omega
  have hrun := run_of_le hle fun error herror => h error (tokens_of_run_error herror)
  rw [tokens_eq, tokens_eq, hrun]

/-- If forms nest too deep, it is reported at the first opening parenthesis with which more are
    open than forms may be. -/
theorem first_beyond {maxDepth : Nat} {ts : List Token} {error : Error}
    (h : tokens maxDepth ts = .error error) (hdeep : error.cause.family = .nestingTooDeep) :
    ∃ before t after, ts = before ++ t :: after ∧ t.kind = .openParen ∧
      min maxDepth greatestMaxDepth < (openParens (before ++ [t])).length ∧
      (∀ us, us <+: before → (openParens us).length ≤ min maxDepth greatestMaxDepth) ∧
      error = ⟨.tooDeep (min maxDepth greatestMaxDepth), Spot.of t⟩ := by
  obtain ⟨before, t, after, next, rfl, hbefore, hrefuse⟩ :=
    exists_refuse h (Cause.ranOut_of_nestingTooDeep hdeep)
  cases hrefuse with
  | tooDeep ht hlimit =>
    refine ⟨before, t, after, rfl, ht, ?_, ?_, rfl⟩
    · have hopen : openParens (before ++ [t]) = t :: openParens before :=
        Token.openParens_of_balanced ht .nil
      rw [hopen, List.length_cons, length_openParens hbefore]
      simpa [State.opened] using Nat.lt_succ_of_le hlimit
    · -- all tokens before this one were read
      rintro us ⟨vs, rfl⟩
      obtain ⟨mid, hus, -⟩ := run_append_eq_ok_iff.1 hbefore
      exact length_openParens_le hus
  | strayBracket | unmatchedBracket | unmatchedParen | emptyForm | noBody | branches | unrecognized
  | noParams | badParam | secondBody | trailing => cases hdeep

end Parse

open Token (tokenize openParens)

/-- A limit on nested forms only cuts. What is not cut is the same under every greater limit, be it
    a tree or an error; and of a text that is a tree under a greater limit, a limit gives the same
    tree if that is no deeper, and otherwise an error at the first opening parenthesis that is
    nested too deep. -/
theorem parse_cut_by_limit (source : String) {m n : Nat} (hmn : m ≤ n) :
    ((∀ error, parse m source = .error error → error.cause.family ≠ .nestingTooDeep) →
      parse n source = parse m source) ∧
    ∀ e, parse n source = .ok e →
      (e.formDepth ≤ min m greatestMaxDepth → parse m source = .ok e) ∧
      (min m greatestMaxDepth < e.formDepth → ∃ before t after,
        tokenize source = before ++ t :: after ∧ t.kind = .openParen ∧
        min m greatestMaxDepth < (openParens (before ++ [t])).length ∧
        (∀ us, us <+: before → (openParens us).length ≤ min m greatestMaxDepth) ∧
        parse m source = .error ⟨.tooDeep (min m greatestMaxDepth), .of t⟩) := by
  refine ⟨Parse.tokens_of_le hmn, fun e he => ?_⟩
  obtain ⟨hkinds, hfits⟩ := Parse.tokens_eq_ok_iff_fits.1 he
  obtain ⟨hplain, -⟩ := Parse.fits_zero_iff.1 hfits
  have hm : parse m source = .ok e ↔ e.formDepth ≤ min m greatestMaxDepth := by
    rw [parse, Parse.tokens_eq_ok_iff_fits, Parse.fits_zero_iff]
    exact ⟨fun h => h.2.2, fun h => ⟨hkinds, hplain, h⟩⟩
  refine ⟨hm.2, fun hdeep => ?_⟩
  -- any other error would be the same under the greater limit
  have hcut : ∃ error, parse m source = .error error ∧ error.cause.family = .nestingTooDeep := by
    by_contra hnone
    have hsame : parse n source = parse m source :=
      Parse.tokens_of_le hmn fun error herror hfamily => hnone ⟨error, herror, hfamily⟩
    exact Nat.not_le.2 hdeep (hm.1 (hsame ▸ he))
  obtain ⟨error, herror, hfamily⟩ := hcut
  obtain ⟨before, t, after, hts, ht, hbeyond, hfirst, rfl⟩ := Parse.first_beyond herror hfamily
  exact ⟨before, t, after, hts, ht, hbeyond, hfirst, herror⟩

/-- The third parenthesis is nested no deeper than the second. -/
theorem parse_cut_by_limit_siblings :
    2 ≤ 3 ∧ parse 3 "(f (g) (f (h)))" = .ok (.apply (.symbol "f") [.apply (.symbol "g") [],
      .apply (.symbol "f") [.apply (.symbol "h") []]]) ∧
    ∃ before t after, tokenize "(f (g) (f (h)))" = before ++ t :: after ∧ t.kind = .openParen ∧
      2 < (openParens (before ++ [t])).length ∧
      (∀ us, us <+: before → (openParens us).length ≤ 2) ∧
      parse 2 "(f (g) (f (h)))" = .error ⟨.tooDeep 2, .of t⟩ := by
  have hle : 2 ≤ 3 := by decide
  have htree : parse 3 "(f (g) (f (h)))" = .ok (.apply (.symbol "f") [.apply (.symbol "g") [],
      .apply (.symbol "f") [.apply (.symbol "h") []]]) := by decide +kernel
  exact ⟨hle, htree, ((parse_cut_by_limit _ hle).2 _ htree).2 (by decide)⟩

/-- The fourth one is the first that is too deep. -/
example : parse 2 "(f (g) (f (h)))" = .error ⟨.tooDeep 2, ⟨1, 11⟩⟩ := by decide +kernel

end Formulary.Expr
