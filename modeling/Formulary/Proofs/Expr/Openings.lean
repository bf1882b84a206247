import Formulary.Proofs.Expr.Grammar
import Formulary.Proofs.Token.Parens

/-!
# The forms that are open

The automaton keeps the spots of the forms that it is in. They are the spots of the parentheses that
are open among the tokens read, told without the automaton (`opened_of_run`): every move opens and
closes what the token does. A tree closes what it opens, so what has been read of a form that is
still open is balanced but for its first token. From this the token that opened the innermost form
is found among those read, with what has been read of the form behind it (`exists_innermost`).
-/

namespace Formulary.Expr

open Token (Kind Balanced openAfter openParens)

/-! ## Trees are balanced -/

theorem balanced_names (names : List String) : Balanced (names.map Kind.symbol) :=
  Balanced.of_no_parens <| List.forall_mem_map.2 fun _ _ => by simp

theorem balanced_flattenAll {as : List Expr} (h : ∀ a ∈ as, Balanced a.flatten) :
    Balanced (flattenAll as) := by
  induction as with
  | nil => exact .nil
  | cons a as ih =>
    obtain ⟨ha, has⟩ := List.forall_mem_cons.1 h
    exact .append ha (ih has)

/-- A tree closes the parentheses that it opens, and no others. -/
theorem balanced_flatten (e : Expr) : Balanced e.flatten := by
  induction e with
  | symbol | integer => exact .single (by simp) (by simp)
  | lambda params body ih =>
    have hinside : Balanced (.symbol lambdaKeyword :: .openBracket ::
        (params.map .symbol ++ .closeBracket :: body.flatten)) :=
      .cons (by simp) (by simp) (.cons (by simp) (by simp)
        (.append (balanced_names params) (.cons (by simp) (by simp) ih)))
    simpa [flatten] using Balanced.group hinside
  | cond test yes no ht hy hn =>
    have hinside : Balanced (.symbol condKeyword :: (test.flatten ++ yes.flatten ++ no.flatten)) :=
      .cons (by simp) (by simp) (.append (.append ht hy) hn)
    exact .group hinside
  | apply operator args ho ha => exact .group (.append ho (balanced_flattenAll ha))

namespace Parse

/-- What has been read of an open form is the parenthesis that opened it, and balanced after it. -/
theorem Hole.exists_read (hole : Hole) :
    ∃ inside, hole.read = .openParen :: inside ∧ Balanced inside := by
  have trees (es : List Expr) : Balanced (flattenAll es) :=
    balanced_flattenAll fun e _ => balanced_flatten e
  cases hole with
  | head => exact ⟨_, rfl, .nil⟩
  | body params =>
    exact ⟨_, rfl, .cons (by simp) (by simp) (.cons (by simp) (by simp)
      (.append (balanced_names _) (.single (by simp) (by simp))))⟩
  | branch parts => exact ⟨_, rfl, .cons (by simp) (by simp) (trees _)⟩
  | argument operator args => exact ⟨_, rfl, .append (balanced_flatten operator) (trees _)⟩

/-! ## Spots of open forms -/

/-- The spots at which the open forms of a state were opened, innermost first. -/
def State.opened : State → List Spot
  | .ready around => around.map Opening.spot
  | .lambdaHead spot around | .lambdaParams spot _ around | .lambdaEnd spot _ _ around =>
    spot :: around.map Opening.spot
  | .complete _ => []

theorem opened_supply (e : Expr) (around : List Opening) :
    (supply e around).opened = around.map Opening.spot := by
  unfold supply
  split <;> rfl

variable {limit : Nat}

/-- A move opens and closes the forms that its token opens and closes. -/
theorem Advance.opened {t : Token} {state state' : State} (h : Advance limit t state state')
    {opens : List Token} (hopens : state.opened = opens.map Spot.of) :
    state'.opened = (openAfter opens t).map Spot.of := by
  cases h with
  | openForm ht =>
    rw [Token.openAfter_of_openParen ht, List.map_cons, ← hopens]
    rfl
  | headLambda ht | headCond ht | openParams ht | param ht | closeParams ht =>
    rw [Token.openAfter_of_other (by simp [ht]) (by simp [ht]), ← hopens]
    rfl
  | symbol ht | integer ht =>
    rw [Token.openAfter_of_other (by simp [ht]) (by simp [ht]), ← hopens, opened_supply]
    rfl
  | closeCond ht | closeApply ht | closeLambda ht =>
    rw [Token.openAfter_of_closeParen ht, List.map_tail, ← hopens, opened_supply]
    rfl

theorem opened_of_run {state state' : State} {ts : List Token}
    (h : run limit state ts = .ok state') {opens : List Token}
    (hopens : state.opened = opens.map Spot.of) :
    state'.opened = (ts.foldl openAfter opens).map Spot.of := by
  induction ts generalizing state opens with
  | nil => exact Except.ok.inj h ▸ hopens
  | cons t ts ih =>
    obtain ⟨next, move, h⟩ := run_cons_eq_ok_iff.1 h
    exact ih h (move.opened hopens)

/-- The open forms are those of the parentheses that are open. -/
theorem opened_of_run_initial {state : State} {ts : List Token}
    (h : run limit .initial ts = .ok state) : state.opened = (openParens ts).map Spot.of :=
  opened_of_run h rfl

/-- No more forms are open than may be. -/
theorem State.Sound.length_opened_le {state : State} (h : state.Sound limit) :
    state.opened.length ≤ limit := by
  cases state with
  | ready around => simpa [opened] using SoundAround.length_le h
  | lambdaHead | lambdaParams => simpa [opened] using Nat.succ_le_of_lt h.1
  | lambdaEnd =>
    -- the body stands inside of all the forms and fits there
    simpa [opened] using Nat.le_trans (Nat.le_add_right _ _) h.1.1
  | complete => exact Nat.zero_le _

theorem length_openParens {state : State} {ts : List Token}
    (h : run limit .initial ts = .ok state) : (openParens ts).length = state.opened.length := by
  rw [opened_of_run_initial h, List.length_map]

/-- As long as tokens are read, no more parentheses are open than forms may be. -/
theorem length_openParens_le {state : State} {ts : List Token}
    (h : run limit .initial ts = .ok state) : (openParens ts).length ≤ limit :=
  length_openParens h ▸ (run_initial h).2.length_opened_le

/-! ## The innermost form -/

/-- What has been read in a state with an open form ends with the parenthesis of the innermost one,
    and balanced tokens after it. -/
theorem State.exists_read {state : State} (h : state.opened ≠ []) :
    ∃ ks inside, state.read = ks ++ .openParen :: inside ∧ Balanced inside := by
  cases state with
  | ready around =>
    cases around with
    | nil => exact absurd rfl h
    | cons opening around =>
      obtain ⟨inside, hread, hinside⟩ := opening.hole.exists_read
      exact ⟨readAround around, inside, by rw [State.read, readAround, hread], hinside⟩
  | lambdaHead spot around => exact ⟨readAround around, _, rfl, .single (by simp) (by simp)⟩
  | lambdaParams spot params around =>
    exact ⟨readAround around, _, rfl,
      .cons (by simp) (by simp) (.cons (by simp) (by simp) (balanced_names _))⟩
  | lambdaEnd spot params body around =>
    obtain ⟨inside, hread, hinside⟩ := (Hole.body params).exists_read
    exact ⟨readAround around, _, by simp [State.read, hread],
      .append hinside (balanced_flatten body)⟩
  | complete => exact absurd rfl h

/-- If what has been read ends with a parenthesis and balanced tokens after it, then a token that
    was read is this parenthesis, and it opened the innermost form. -/
theorem exists_innermost {state : State} {ts : List Token} {ks inside : List Kind}
    (hrun : run limit .initial ts = .ok state) (hread : state.read = ks ++ .openParen :: inside)
    (hinside : Balanced inside) : ∃ before opening rest, ts = before ++ opening :: rest ∧
      opening.kind = .openParen ∧ rest.map Token.kind = inside ∧
      state.opened.head? = some (Spot.of opening) := by
  rw [(run_initial hrun).1] at hread
  obtain ⟨before, _, rfl, -, h⟩ := List.map_eq_append_iff.1 hread
  obtain ⟨opening, rest, rfl, hopening, hrest⟩ := List.map_eq_cons_iff.1 h
  refine ⟨before, opening, rest, rfl, hopening, hrest, ?_⟩
  rw [opened_of_run_initial hrun, Token.openParens_of_balanced hopening (hrest ▸ hinside)]
  rfl

/-- The innermost form was opened by a token with that spot, and what was read after it is what has
    been read of the form. -/
theorem exists_opening {opened : Spot} {hole : Hole} {around : List Opening} {ts : List Token}
    (hrun : run limit .initial ts = .ok (.ready (⟨opened, hole⟩ :: around))) :
    ∃ before opening rest, ts = before ++ opening :: rest ∧ Spot.of opening = opened ∧
      (opening :: rest).map Token.kind = hole.read := by
  obtain ⟨inside, hread, hinside⟩ := hole.exists_read
  have hstate : (State.ready (⟨opened, hole⟩ :: around)).read =
      readAround around ++ .openParen :: inside := by
    rw [State.read, readAround, hread]
  obtain ⟨before, opening, rest, rfl, hopening, hrest, hhead⟩ :=
    exists_innermost hrun hstate hinside
  refine ⟨before, opening, rest, rfl, (Option.some.inj hhead).symm, ?_⟩
  rw [hread, List.map_cons, hopening, hrest]

/-- The innermost form was opened by a token with that spot that none of the later ones closes. -/
theorem exists_unclosed {state : State} {opened : Spot} {ts : List Token}
    (hrun : run limit .initial ts = .ok state) (hopened : state.opened.head? = some opened) :
    ∃ before opening rest, ts = before ++ opening :: rest ∧ opening.kind = .openParen ∧
      Spot.of opening = opened ∧ Token.LeavesOpen (rest.map Token.kind) := by
  have hne : state.opened ≠ [] := by
    rintro hnil
    rw [hnil] at hopened
    cases hopened
  obtain ⟨ks, inside, hread, hinside⟩ := State.exists_read hne
  obtain ⟨before, opening, rest, rfl, hopening, hrest, hhead⟩ :=
    exists_innermost hrun hread hinside
  rw [hhead] at hopened
  exact ⟨before, opening, rest, rfl, hopening, Option.some.inj hopened,
    hrest ▸ hinside.leavesOpen⟩

end Parse

end Formulary.Expr
