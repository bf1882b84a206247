import Formulary.Proofs.Expr.Openings
import Formulary.Proofs.Expr.Refusals
import Formulary.Proofs.Token.Places

/-!
# Where errors are reported

Every error of reading is reported at a place of the source. One about a token that is refused
stands at this token, or at the parenthesis that opened the form which the token closes too early
(`Refuse.spot_cases`). One about something that is missing stands just past the last token: the
reader finds this place from the column of the token and its width, and it is the one that the
scanner has come to (`endSpot_tokenize`).

* `exists_token_at`: a refused token is reported at a token;
* `exists_closedEarly`: a form that is closed too early is reported where it was opened;
* `reported_in_source`: where the errors of a source are reported.
-/

namespace Formulary.Expr.Parse

open Token (LeavesOpen tokenize scan)

variable {limit maxDepth : Nat} {t : Token} {ts : List Token} {state : State} {error : Error}

/-! ## Refused tokens -/

/-- An open form is closed too early if there is no expression in it, or if it is a conditional
    without the three that it needs. -/
inductive ClosedEarly : Hole → Cause → Prop
  | head : ClosedEarly .head .emptyForm
  | branch {parts : Array Expr} (h : parts.toList.length ≠ 3) :
    ClosedEarly (.branch parts) (.branches parts.toList.length)

/-- The causes that are about a form which is closed too early. -/
def Cause.isEarlyEnd : Cause → Bool
  | .emptyForm | .branches _ => true
  | _ => false

theorem Cause.ranOut_of_isEarlyEnd {cause : Cause} (h : cause.isEarlyEnd = true) :
    cause.ranOut = false := by
  unfold isEarlyEnd at h
  split at h
  · rfl
  · rfl
  · cases h

/-- A refused token is reported where it stands, unless it closes a form too early, which is
    reported where the form was opened. -/
theorem Refuse.spot_cases (h : Refuse limit t state error) :
    error.spot = Spot.of t ∧ error.cause.isEarlyEnd = false ∨
      ∃ hole around, state = .ready (⟨error.spot, hole⟩ :: around) ∧ t.kind = .closeParen ∧
        ClosedEarly hole error.cause := by
  cases h with
  | emptyForm ht => exact .inr ⟨_, _, rfl, ht, .head⟩
  | branches ht h => exact .inr ⟨_, _, rfl, ht, .branch h⟩
  | tooDeep | strayBracket | unmatchedBracket | unmatchedParen | noBody | unrecognized | noParams
  | badParam | secondBody | trailing => exact .inl ⟨rfl, rfl⟩

/-- Only a token that is not recognized is reported as such. -/
theorem Refuse.kind_of_unrecognized {text : String} (h : Refuse limit t state error)
    (hcause : error.cause = .unrecognized text) :
    t.kind = .unrecognized text ∧ error.spot = Spot.of t := by
  cases h with
  | unrecognized ht =>
    obtain rfl := Cause.unrecognized.inj hcause
    exact ⟨ht, rfl⟩
  | tooDeep | strayBracket | unmatchedBracket | unmatchedParen | emptyForm | noBody | branches
  | noParams | badParam | secondBody | trailing => cases hcause

/-- Unless the tokens ran out, an error is reported at one of them. -/
theorem exists_token_at (h : tokens maxDepth ts = .error error)
    (hout : error.cause.ranOut = false) : ∃ t ∈ ts, error.spot = Spot.of t := by
  obtain ⟨before, t, after, state, rfl, hrun, hrefuse⟩ := exists_refuse h hout
  rcases hrefuse.spot_cases with ⟨hspot, -⟩ | ⟨hole, around, rfl, -, -⟩
  · exact ⟨t, by simp, hspot⟩
  · obtain ⟨outside, opening, inside, rfl, hspot, -⟩ := exists_opening hrun
    exact ⟨opening, by simp, hspot.symm⟩

theorem exists_unrecognized {text : String} (h : tokens maxDepth ts = .error error)
    (hcause : error.cause = .unrecognized text) :
    ∃ t ∈ ts, t.kind = .unrecognized text ∧ error.spot = Spot.of t := by
  obtain ⟨before, t, after, state, rfl, -, hrefuse⟩ := exists_refuse h (by rw [hcause]; rfl)
  exact ⟨t, by simp, hrefuse.kind_of_unrecognized hcause⟩

/-- A form that is closed too early is reported at the parenthesis that opened it. -/
theorem exists_closedEarly (h : tokens maxDepth ts = .error error)
    (hcause : error.cause.isEarlyEnd = true) : ∃ hole before opening inside closing after,
      ts = before ++ opening :: (inside ++ closing :: after) ∧
      (opening :: inside).map Token.kind = hole.read ∧ closing.kind = .closeParen ∧
      ClosedEarly hole error.cause ∧ error.spot = Spot.of opening := by
  obtain ⟨before, closing, after, state, rfl, hrun, hrefuse⟩ :=
    exists_refuse h (Cause.ranOut_of_isEarlyEnd hcause)
  rcases hrefuse.spot_cases with ⟨-, hnot⟩ | ⟨hole, around, rfl, hclosing, hearly⟩
  · cases hnot.symm.trans hcause
  · obtain ⟨outside, opening, inside, rfl, hspot, hread⟩ := exists_opening hrun
    exact ⟨hole, outside, opening, inside, closing, after, by simp, hread, hclosing, hearly,
      hspot.symm⟩

theorem exists_emptyForm (h : tokens maxDepth ts = .error error)
    (hcause : error.cause = .emptyForm) : ∃ before opening closing after,
      ts = before ++ opening :: closing :: after ∧ opening.kind = .openParen ∧
      closing.kind = .closeParen ∧ error.spot = Spot.of opening := by
  obtain ⟨hole, before, opening, inside, closing, after, rfl, hread, hclosing, hearly, hspot⟩ :=
    exists_closedEarly h (by rw [hcause]; rfl)
  rw [hcause] at hearly
  cases hearly
  obtain ⟨hopening, hinside⟩ := List.cons.inj hread
  obtain rfl := List.map_eq_nil_iff.1 hinside
  exact ⟨before, opening, closing, after, rfl, hopening, hclosing, hspot⟩

theorem Cause.exists_eq_branches {cause : Cause} (h : cause.family = .malformedIf) :
    ∃ found, cause = .branches found := by
  cases cause with
  | branches found => exact ⟨found, rfl⟩
  | missingExpression | unmatchedParen | strayBracket | unmatchedBracket | unrecognized | unclosed
  | emptyForm | trailing | noParams | badParam | unclosedParams | noBody | secondBody | tooDeep =>
    cases h

theorem exists_malformedIf (h : tokens maxDepth ts = .error error)
    (hfamily : error.cause.family = .malformedIf) :
    ∃ parts before opening word inside closing after,
      ts = before ++ opening :: word :: (inside ++ closing :: after) ∧
      opening.kind = .openParen ∧ word.kind = .symbol condKeyword ∧
      inside.map Token.kind = flattenAll parts ∧ parts.length ≠ 3 ∧
      closing.kind = .closeParen ∧ error = ⟨.branches parts.length, Spot.of opening⟩ := by
  obtain ⟨cause, spot⟩ := error
  obtain ⟨found, rfl⟩ := Cause.exists_eq_branches hfamily
  obtain ⟨hole, before, opening, inside, closing, after, rfl, hread, hclosing, hearly, rfl⟩ :=
    exists_closedEarly h rfl
  cases hearly with
  | branch hparts =>
    obtain ⟨hopening, hinside⟩ := List.cons.inj hread
    obtain ⟨word, inside, rfl, hword, hinside⟩ := List.map_eq_cons_iff.1 hinside
    exact ⟨_, before, opening, word, inside, closing, after, rfl, hopening, hword, hinside, hparts,
      hclosing, rfl⟩

/-! ## The end of the tokens -/

/-- The end of the tokens is where the scanner stands after the last of them. -/
theorem endSpot_tokenize (source : String) :
    (∀ t past, (scan source).getLast? = some (t, past) →
      endSpot (tokenize source) = ⟨past.line, past.column⟩) ∧
    (tokenize source = [] → endSpot (tokenize source) = ⟨1, 1⟩) := by
  refine ⟨fun t past hlast => ?_, fun hnil => by rw [hnil]; rfl⟩
  obtain ⟨hline, hcolumn⟩ := Token.past_of_mem_scan (List.mem_of_getLast? hlast)
  rw [endSpot, tokenize, List.getLast?_map, hlast, hline, hcolumn]
  rfl

theorem head?_opened_of_finish {after opened : Spot} (h : finish after state = .error error)
    (hcause : error.cause = .unclosed opened) : state.opened.head? = some opened := by
  cases state with
  | ready around =>
    cases around with
    | nil => cases h; cases hcause
    | cons => cases h; cases hcause; rfl
  | lambdaEnd => cases h; cases hcause; rfl
  | lambdaHead | lambdaParams => cases h; cases hcause
  | complete => cases h

/-- If a form is not closed, the parenthesis that is named is one that no other closes. -/
theorem exists_unclosed_of_cause {opened : Spot} (h : tokens maxDepth ts = .error error)
    (hcause : error.cause = .unclosed opened) : ∃ before opening after,
      ts = before ++ opening :: after ∧ opening.kind = .openParen ∧ Spot.of opening = opened ∧
      LeavesOpen (after.map Token.kind) := by
  obtain ⟨state, hrun, hfinish⟩ := exists_finish h (by rw [hcause]; rfl)
  exact exists_unclosed hrun (head?_opened_of_finish hfinish hcause)

/-- Errors of a source are reported at places of it. Where a token is refused it is at a token;
    where the tokens ran out it is where the scanner stands after the last of them. An empty form
    and a malformed conditional are reported at the parenthesis that opened them, what is not
    recognized where it stands, and a form that is not closed names the parenthesis that opened it
    and that no other closes. -/
theorem reported_in_source {source : String} (h : parse maxDepth source = .error error) :
    (error.cause.ranOut = false → ∃ t ∈ tokenize source, error.spot = Spot.of t) ∧
    (error.cause.ranOut = true →
      (∀ t past, (scan source).getLast? = some (t, past) →
        error.spot = ⟨past.line, past.column⟩) ∧
      (tokenize source = [] → error.spot = ⟨1, 1⟩)) ∧
    (error.cause = .emptyForm → ∃ before opening closing after,
      tokenize source = before ++ opening :: closing :: after ∧ opening.kind = .openParen ∧
      closing.kind = .closeParen ∧ error.spot = Spot.of opening) ∧
    (error.cause.family = .malformedIf → ∃ parts before opening word inside closing after,
      tokenize source = before ++ opening :: word :: (inside ++ closing :: after) ∧
      opening.kind = .openParen ∧ word.kind = .symbol condKeyword ∧
      inside.map Token.kind = flattenAll parts ∧ parts.length ≠ 3 ∧
      closing.kind = .closeParen ∧ error = ⟨.branches parts.length, Spot.of opening⟩) ∧
    (∀ text, error.cause = .unrecognized text →
      ∃ t ∈ tokenize source, t.kind = .unrecognized text ∧ error.spot = Spot.of t) ∧
    ∀ opened, error.cause = .unclosed opened → ∃ before opening after,
      tokenize source = before ++ opening :: after ∧ opening.kind = .openParen ∧
      Spot.of opening = opened ∧ LeavesOpen (after.map Token.kind) := by
  refine ⟨exists_token_at h, fun hout => ?_, exists_emptyForm h, exists_malformedIf h,
    fun text => exists_unrecognized h, fun opened => exists_unclosed_of_cause h⟩
  obtain ⟨state, -, hfinish⟩ := exists_finish h hout
  rw [(of_finish_eq_error hfinish).1]
  exact endSpot_tokenize source

/-- The end counts characters and not bytes; of the two open forms the inner one is named. -/
theorem reported_in_source_unclosed :
    parse 3 "(é\n (λ ())" = .error ⟨.emptyForm, ⟨2, 5⟩⟩ ∧
    parse 3 "(é\n (λ (g) ab" = .error ⟨.unclosed ⟨2, 2⟩, ⟨2, 11⟩⟩ ∧
    (∃ before opening after, tokenize "(é\n (λ (g) ab" = before ++ opening :: after ∧
      opening.kind = .openParen ∧ Spot.of opening = ⟨2, 2⟩ ∧
      LeavesOpen (after.map Token.kind)) := by
  have h : parse 3 "(é\n (λ (g) ab" = .error ⟨.unclosed ⟨2, 2⟩, ⟨2, 11⟩⟩ := by
    decide +kernel
  exact ⟨by decide +kernel, h, (reported_in_source h).2.2.2.2.2 _ rfl⟩

end Formulary.Expr.Parse
