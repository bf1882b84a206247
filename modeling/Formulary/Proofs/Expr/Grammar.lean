import Formulary.Proofs.Expr.Descent

/-!
# The grammar of expressions

Reading accepts exactly the token sequences of trees, and gives the one tree that a sequence belongs
to. A state of the automaton stands for the tokens that led to it (`State.read`), and what is in it
could be part of an accepted tree (`State.Sound`). Both hold at the start and every move keeps them,
so a complete expression is spelled by all tokens read (*soundness*, `run_initial`). For the other
direction, a tree that fits is read as a whole wherever an expression may stand (*completeness*,
`run_flatten`, with a lemma for each form).

* `tokens_eq_ok_iff_flatten`: what is accepted, and as which tree.
-/

namespace Formulary.Expr.Parse

open Token (Kind)

/-! ## What a state stands for -/

/-- The tokens read of an open form. -/
def Hole.read : Hole → List Kind
  | .head => [.openParen]
  | .body params =>
    .openParen :: .symbol lambdaKeyword :: .openBracket ::
      (params.toList.map .symbol ++ [.closeBracket])
  | .branch parts => .openParen :: .symbol condKeyword :: flattenAll parts.toList
  | .argument operator args => .openParen :: (operator.flatten ++ flattenAll args.toList)

/-- The tokens read of the open forms, outermost first. -/
def readAround : List Opening → List Kind
  | [] => []
  | opening :: around => readAround around ++ opening.hole.read

/-- The tokens that lead to a state. -/
def State.read : State → List Kind
  | .ready around => readAround around
  | .lambdaHead _ around => readAround around ++ [.openParen, .symbol lambdaKeyword]
  | .lambdaParams _ params around =>
    readAround around ++
      .openParen :: .symbol lambdaKeyword :: .openBracket :: params.toList.map .symbol
  | .lambdaEnd _ params body around => readAround around ++ (Hole.body params).read ++ body.flatten
  | .complete e => e.flatten

/-- A tree that may stand with `depth` forms around it. -/
def Fits (limit depth : Nat) (e : Expr) : Prop :=
  depth + e.formDepth ≤ limit ∧ e.PlainOperators

/-- What has been read of an open form with `depth` forms around what it waits for. -/
def Hole.Sound (limit depth : Nat) : Hole → Prop
  | .head | .body _ => True
  | .branch parts => ∀ e ∈ parts.toList, Fits limit depth e
  | .argument operator args =>
    ¬operator.IsKeyword ∧ Fits limit depth operator ∧ ∀ e ∈ args.toList, Fits limit depth e

/-- No more forms are open than may be, and what has been read of them is sound. -/
def SoundAround (limit : Nat) : List Opening → Prop
  | [] => True
  | opening :: around =>
    around.length < limit ∧ opening.hole.Sound limit (around.length + 1) ∧ SoundAround limit around

/-- What is in a state could be part of an accepted tree. -/
def State.Sound (limit : Nat) : State → Prop
  | .ready around => SoundAround limit around
  | .lambdaHead _ around | .lambdaParams _ _ around =>
    around.length < limit ∧ SoundAround limit around
  | .lambdaEnd _ _ body around => Fits limit (around.length + 1) body ∧ SoundAround limit around
  | .complete e => Fits limit 0 e

/-! ## Forms fit if their parts do -/

variable {limit depth : Nat}

theorem fits_symbol {name : String} (h : depth ≤ limit) : Fits limit depth (symbol name) := by
  simpa [Fits, formDepth, PlainOperators, HasPlainOperator] using h

theorem fits_integer {value : Int64} (h : depth ≤ limit) : Fits limit depth (integer value) := by
  simpa [Fits, formDepth, PlainOperators, HasPlainOperator] using h

theorem fits_lambda_iff {params : List String} {body : Expr} :
    Fits limit depth (.lambda params body) ↔ Fits limit (depth + 1) body := by
  simp [Fits, formDepth, PlainOperators, HasPlainOperator, ← Nat.add_assoc]

theorem fits_cond_iff {test yes no : Expr} :
    Fits limit depth (.cond test yes no) ↔ ∀ e ∈ [test, yes, no], Fits limit (depth + 1) e := by
  simp only [Fits, formDepth, PlainOperators, HasPlainOperator, everywhere_cond, true_and,
    List.forall_mem_cons, List.not_mem_nil, false_imp_iff, implies_true, and_true]
  -- a maximum stays below the limit if each of the depths does
  grind

/-- The operator of an application counts as one level deeper, and must not be a keyword. -/
theorem fits_apply_iff {operator : Expr} {args : List Expr} :
    Fits limit depth (apply operator args) ↔
      ¬operator.IsKeyword ∧ Fits limit (depth + 1) operator ∧
        ∀ e ∈ args, Fits limit (depth + 1) e := by
  have deep : depth + (1 + max operator.formDepth (formDepths args)) ≤ limit ↔
      depth + 1 + operator.formDepth ≤ limit ∧ ∀ e ∈ args, depth + 1 + e.formDepth ≤ limit := by
    have := @formDepths_le_iff args (limit - (depth + 1))
    grind
  simp only [Fits, formDepth, PlainOperators, everywhere_apply, deep]
  simp only [HasPlainOperator]
  grind

/-! ## Soundness -/

/-- A complete expression is read into the form around it with all its tokens. -/
theorem read_supply (e : Expr) (around : List Opening) :
    (supply e around).read = readAround around ++ e.flatten := by
  unfold supply
  split <;> simp [State.read, readAround, Hole.read, flattenAll, flattenAll_append]

/-- Each move adds the token to those that the state stands for. -/
theorem Advance.read {t : Token} {state state' : State} (h : Advance limit t state state') :
    state'.read = state.read ++ [t.kind] := by
  cases h with
  | openForm ht | headLambda ht | headCond ht | openParams ht | param ht | closeParams ht =>
    simp [State.read, readAround, Hole.read, flattenAll, ht]
  | symbol ht | integer ht => rw [read_supply, ht]; rfl
  | closeCond ht hp =>
    rw [read_supply, ht]
    simp [State.read, readAround, Hole.read, flatten, flattenAll, hp]
  | closeApply ht | closeLambda ht =>
    rw [read_supply, ht]
    simp [State.read, readAround, Hole.read, flatten]

/-- Soundness is kept when an expression that fits is put where one is waited for. -/
theorem sound_supply {e : Expr} {around : List Opening} (he : Fits limit around.length e)
    (hk : WaitsForHead around → ¬e.IsKeyword) (ha : SoundAround limit around) :
    (supply e around).Sound limit := by
  unfold supply
  -- one case for the end, and one for each hole that an expression fills
  split
  · exact he
  · obtain ⟨hl, -, ha⟩ := ha
    exact ⟨hl, ⟨hk trivial, he, by simp⟩, ha⟩
  · exact ⟨he, ha.2.2⟩
  · obtain ⟨hl, hp, ha⟩ := ha
    refine ⟨hl, fun x hx => ?_, ha⟩
    rcases List.mem_append.1 (Array.toList_push ▸ hx) with hx | hx
    · exact hp x hx
    · exact List.mem_singleton.1 hx ▸ he
  · obtain ⟨hl, ⟨ho, hf, hp⟩, ha⟩ := ha
    refine ⟨hl, ⟨ho, hf, fun x hx => ?_⟩, ha⟩
    rcases List.mem_append.1 (Array.toList_push ▸ hx) with hx | hx
    · exact hp x hx
    · exact List.mem_singleton.1 hx ▸ he

/-- No more forms are open than may be. -/
theorem SoundAround.length_le {around : List Opening} (h : SoundAround limit around) :
    around.length ≤ limit := by
  cases around with
  | nil => exact Nat.zero_le _
  | cons => exact h.1

/-- Each move keeps a state sound. -/
theorem Advance.sound {t : Token} {state state' : State} (h : Advance limit t state state')
    (hs : state.Sound limit) : state'.Sound limit := by
  cases h with
  | openForm _ hl => exact ⟨hl, trivial, hs⟩
  | headLambda => exact ⟨hs.1, hs.2.2⟩
  | headCond => exact ⟨hs.1, by simp [Hole.Sound], hs.2.2⟩
  | symbol _ hk => exact sound_supply (fits_symbol hs.length_le) hk hs
  | integer => exact sound_supply (fits_integer hs.length_le) (fun _ => id) hs
  | closeCond _ hp => exact sound_supply (fits_cond_iff.2 (hp ▸ hs.2.1)) (fun _ => id) hs.2.2
  | closeApply => exact sound_supply (fits_apply_iff.2 hs.2.1) (fun _ => id) hs.2.2
  | openParams | param => exact hs
  | closeParams => exact ⟨hs.1, trivial, hs.2⟩
  | closeLambda => exact sound_supply (fits_lambda_iff.2 hs.1) (fun _ => id) hs.2

@[simp] theorem run_nil (state : State) : run limit state [] = .ok state := rfl

theorem run_cons (state : State) (t : Token) (ts : List Token) :
    run limit state (t :: ts) = (step limit state t).bind fun next => run limit next ts := rfl

/-- Tokens can be read in two goes. -/
theorem run_append (state : State) (ts us : List Token) :
    run limit state (ts ++ us) = (run limit state ts).bind fun next => run limit next us :=
  List.foldlM_append

/-- A run that succeeds makes a move with the first token, and goes on after it. -/
theorem run_cons_eq_ok_iff {state state' : State} {t : Token} {ts : List Token} :
    run limit state (t :: ts) = .ok state' ↔
      ∃ next, Advance limit t state next ∧ run limit next ts = .ok state' := by
  have hstep (next : State) : step limit state t = .ok next ↔ Advance limit t state next :=
    ⟨advance_of_step, step_of_advance⟩
  simp only [run_cons, ← hstep]
  exact bind_eq_ok_iff

/-- A run adds all tokens to those that the state stands for, and keeps it sound. -/
theorem read_run {state state' : State} {ts : List Token} (h : run limit state ts = .ok state') :
    state'.read = state.read ++ ts.map Token.kind ∧ (state.Sound limit → state'.Sound limit) := by
  induction ts generalizing state with
  | nil => obtain rfl := Except.ok.inj h; simp
  | cons t ts ih =>
    -- the first token makes a move, and the induction is on the tokens after it
    obtain ⟨next, move, h⟩ := run_cons_eq_ok_iff.1 h
    obtain ⟨hread, hsound⟩ := ih h
    exact ⟨by simp [hread, move.read], fun hs => hsound (move.sound hs)⟩

/-- A state reached from the start stands for all tokens read, and is sound. -/
theorem run_initial {state : State} {ts : List Token} (h : run limit .initial ts = .ok state) :
    state.read = ts.map Token.kind ∧ state.Sound limit := by
  obtain ⟨hread, hsound⟩ := read_run h
  exact ⟨hread, hsound trivial⟩

/-! ## Completeness -/

theorem run_cons_of_advance {t : Token} {state next : State} (h : Advance limit t state next)
    (ts : List Token) : run limit state (t :: ts) = run limit next ts := by
  rw [run_cons, step_of_advance h]
  rfl

theorem run_append_of_run {state next : State} {ts : List Token}
    (h : run limit state ts = .ok next) (us : List Token) :
    run limit state (ts ++ us) = run limit next us := by
  rw [run_append, h]
  rfl

theorem run_append_eq_ok_iff {state next : State} {ts us : List Token} :
    run limit state (ts ++ us) = .ok next ↔
      ∃ mid, run limit state ts = .ok mid ∧ run limit mid us = .ok next := by
  rw [run_append]
  exact bind_eq_ok_iff

/-- Symbols in a parameter list are added to the parameters. -/
theorem run_params {spot : Spot} {around : List Opening} {params : Array String}
    {names : List String} {ts : List Token} (h : ts.map Token.kind = names.map .symbol) :
    run limit (.lambdaParams spot params around) ts =
      .ok (.lambdaParams spot (params ++ names.toArray) around) := by
  induction names generalizing params ts with
  | nil =>
    obtain rfl := List.map_eq_nil_iff.1 h
    simp
  | cons name names ih =>
    obtain ⟨t, ts, rfl, ht, h⟩ := List.map_eq_cons_iff.1 h
    rw [run_cons_of_advance (.param ht), ih h]
    simp

/-- The tokens of a tree that fits are read as this tree wherever an expression may stand. -/
def ReadWhole (limit : Nat) (e : Expr) : Prop :=
  ∀ {around : List Opening} {ts : List Token}, ts.map Token.kind = e.flatten →
    Fits limit around.length e → (WaitsForHead around → ¬e.IsKeyword) →
      run limit (.ready around) ts = .ok (supply e around)

/-- Trees in a row are added to the arguments. -/
theorem run_flattenAll {spot : Spot} {around : List Opening} {operator : Expr}
    {args : Array Expr} {more : List Expr} {ts : List Token}
    (each : ∀ e ∈ more, ReadWhole limit e) (fit : ∀ e ∈ more, Fits limit (around.length + 1) e)
    (h : ts.map Token.kind = flattenAll more) :
    run limit (.ready (⟨spot, .argument operator args⟩ :: around)) ts =
      .ok (.ready (⟨spot, .argument operator (args ++ more.toArray)⟩ :: around)) := by
  induction more generalizing args ts with
  | nil =>
    obtain rfl := List.map_eq_nil_iff.1 h
    simp
  | cons e more ih =>
    obtain ⟨us, vs, rfl, hu, hv⟩ := List.map_eq_append_iff.1 h
    rw [List.forall_mem_cons] at each fit
    have first : run limit (.ready (⟨spot, .argument operator args⟩ :: around)) us =
        .ok (.ready (⟨spot, .argument operator (args.push e)⟩ :: around)) :=
      each.1 hu fit.1 False.elim
    rw [run_append_of_run first]
    exact (ih each.2 fit.2 hv).trans (by simp)

theorem readWhole_symbol (name : String) : ReadWhole limit (symbol name) := by
  intro around ts h _ hk
  obtain ⟨t, rfl, ht⟩ := List.map_eq_singleton_iff.1 h
  exact run_cons_of_advance (.symbol ht hk) []

theorem readWhole_integer (value : Int64) : ReadWhole limit (integer value) := by
  intro around ts h _ _
  obtain ⟨t, rfl, ht⟩ := List.map_eq_singleton_iff.1 h
  exact run_cons_of_advance (.integer ht) []

/-! The tokens of a form are cut where its parts meet, and then the moves are made in turn. -/

/-- The parameters are read one by one, then the body as a whole. -/
theorem ReadWhole.lambda {params : List String} {body : Expr} (hbody : ReadWhole limit body) :
    ReadWhole limit (.lambda params body) := by
  intro around ts h he _
  obtain ⟨t₁, _, rfl, h₁, h⟩ := List.map_eq_cons_iff.1 h
  obtain ⟨t₂, _, rfl, h₂, h⟩ := List.map_eq_cons_iff.1 h
  obtain ⟨t₃, _, rfl, h₃, h⟩ := List.map_eq_cons_iff.1 h
  obtain ⟨us, _, rfl, hu, h⟩ := List.map_eq_append_iff.1 h
  obtain ⟨t₄, _, rfl, h₄, h⟩ := List.map_eq_cons_iff.1 h
  obtain ⟨vs, _, rfl, hv, h⟩ := List.map_eq_append_iff.1 h
  obtain ⟨t₅, rfl, h₅⟩ := List.map_eq_singleton_iff.1 h
  have hb := fits_lambda_iff.1 he
  have hl : around.length < limit := by have := hb.1; omega
  have readParams : run limit (.lambdaParams (Spot.of t₁) #[] around) us =
      .ok (.lambdaParams (Spot.of t₁) (#[] ++ params.toArray) around) := run_params hu
  have readBody : run limit (.ready (⟨Spot.of t₁, .body (#[] ++ params.toArray)⟩ :: around)) vs =
      .ok (.lambdaEnd (Spot.of t₁) (#[] ++ params.toArray) body around) := hbody hv hb False.elim
  rw [run_cons_of_advance (.openForm h₁ hl), run_cons_of_advance (.headLambda h₂),
    run_cons_of_advance (.openParams h₃), run_append_of_run readParams,
    run_cons_of_advance (.closeParams h₄), run_append_of_run readBody,
    run_cons_of_advance (.closeLambda h₅)]
  simp

theorem ReadWhole.cond {test yes no : Expr} (htest : ReadWhole limit test)
    (hyes : ReadWhole limit yes) (hno : ReadWhole limit no) :
    ReadWhole limit (.cond test yes no) := by
  intro around ts h he _
  obtain ⟨t₁, _, rfl, h₁, h⟩ := List.map_eq_cons_iff.1 h
  obtain ⟨t₂, _, rfl, h₂, h⟩ := List.map_eq_cons_iff.1 h
  obtain ⟨us, _, rfl, h, hc⟩ := List.map_eq_append_iff.1 h
  obtain ⟨us, ns, rfl, h, hn⟩ := List.map_eq_append_iff.1 h
  obtain ⟨ts, ys, rfl, ht, hy⟩ := List.map_eq_append_iff.1 h
  obtain ⟨t₃, rfl, h₃⟩ := List.map_eq_singleton_iff.1 hc
  have hp := fits_cond_iff.1 he
  simp only [List.forall_mem_cons, List.not_mem_nil, false_imp_iff, implies_true] at hp
  obtain ⟨ft, fy, fn, -⟩ := hp
  have hl : around.length < limit := by have := ft.1; omega
  have readTest : run limit (.ready (⟨Spot.of t₁, .branch #[]⟩ :: around)) ts =
      .ok (.ready (⟨Spot.of t₁, .branch #[test]⟩ :: around)) := htest ht ft False.elim
  have readYes : run limit (.ready (⟨Spot.of t₁, .branch #[test]⟩ :: around)) ys =
      .ok (.ready (⟨Spot.of t₁, .branch #[test, yes]⟩ :: around)) := hyes hy fy False.elim
  have readNo : run limit (.ready (⟨Spot.of t₁, .branch #[test, yes]⟩ :: around)) ns =
      .ok (.ready (⟨Spot.of t₁, .branch #[test, yes, no]⟩ :: around)) := hno hn fn False.elim
  rw [run_cons_of_advance (.openForm h₁ hl), run_cons_of_advance (.headCond h₂),
    List.append_assoc, List.append_assoc, run_append_of_run readTest, run_append_of_run readYes,
    run_append_of_run readNo]
  exact run_cons_of_advance (.closeCond h₃ rfl) []

/-- The operator is read at the head of the form, so it must not be a keyword there. -/
theorem ReadWhole.apply {operator : Expr} {args : List Expr} (hop : ReadWhole limit operator)
    (hargs : ∀ e ∈ args, ReadWhole limit e) : ReadWhole limit (apply operator args) := by
  intro around ts h he _
  obtain ⟨t₁, _, rfl, h₁, h⟩ := List.map_eq_cons_iff.1 h
  obtain ⟨us, _, rfl, h, hc⟩ := List.map_eq_append_iff.1 h
  obtain ⟨os, as, rfl, ho, ha⟩ := List.map_eq_append_iff.1 h
  obtain ⟨t₂, rfl, h₂⟩ := List.map_eq_singleton_iff.1 hc
  obtain ⟨hp, fo, fa⟩ := fits_apply_iff.1 he
  have hl : around.length < limit := by have := fo.1; omega
  have readOperator : run limit (.ready (⟨Spot.of t₁, .head⟩ :: around)) os =
      .ok (.ready (⟨Spot.of t₁, .argument operator #[]⟩ :: around)) := hop ho fo fun _ => hp
  have readArgs : run limit (.ready (⟨Spot.of t₁, .argument operator #[]⟩ :: around)) as =
      .ok (.ready (⟨Spot.of t₁, .argument operator (#[] ++ args.toArray)⟩ :: around)) :=
    run_flattenAll hargs fa ha
  rw [run_cons_of_advance (.openForm h₁ hl), List.append_assoc, run_append_of_run readOperator,
    run_append_of_run readArgs, run_cons_of_advance (.closeApply h₂)]
  simp

/-- Every tree is read as a whole, whatever its parts. -/
theorem run_flatten (e : Expr) : ReadWhole limit e := by
  induction e with
  | symbol name => exact readWhole_symbol name
  | integer value => exact readWhole_integer value
  | lambda params body hbody => exact hbody.lambda
  | cond test yes no htest hyes hno => exact htest.cond hyes hno
  | apply operator args hop hargs => exact hop.apply hargs

/-! ## What is accepted -/

/-- A program is accepted if its tokens lead to a complete expression. -/
theorem tokens_eq_ok_iff_run {maxDepth : Nat} {ts : List Token} {e : Expr} :
    tokens maxDepth ts = .ok e ↔
      run (min maxDepth greatestMaxDepth) .initial ts = .ok (.complete e) := by
  have only (state : State) : finish (endSpot ts) state = .ok e ↔ state = .complete e := by
    unfold finish
    split <;> simp
  simp only [tokens_eq, bind_eq_ok_iff, only, exists_eq_right]

/-- Tokens are accepted as a tree exactly if they spell it, and it fits. -/
theorem tokens_eq_ok_iff_fits {maxDepth : Nat} {ts : List Token} {e : Expr} :
    tokens maxDepth ts = .ok e ↔
      ts.map Token.kind = e.flatten ∧ Fits (min maxDepth greatestMaxDepth) 0 e := by
  rw [tokens_eq_ok_iff_run]
  constructor
  · intro h
    obtain ⟨hread, hsound⟩ := run_initial h
    exact ⟨hread.symm, hsound⟩
  · rintro ⟨hkinds, hfits⟩
    exact run_flatten e hkinds hfits fun hw => hw.elim

/-- At the top, to fit is not to be nested too deep and to have proper operators. -/
theorem fits_zero_iff {e : Expr} : Fits limit 0 e ↔ e.PlainOperators ∧ e.formDepth ≤ limit := by
  rw [Fits, Nat.zero_add, and_comm]

/-- What is accepted, and as which tree, hangs on the kinds of the tokens alone. -/
theorem toOption_tokens_congr {maxDepth : Nat} {ts us : List Token}
    (h : ts.map Token.kind = us.map Token.kind) :
    (tokens maxDepth ts).toOption = (tokens maxDepth us).toOption := by
  ext e
  simp only [toOption_eq_some_iff, tokens_eq_ok_iff_fits, h]

/-- No two trees are spelled alike if the operators in them are plain. -/
theorem eq_of_flatten_eq {e f : Expr} (he : e.PlainOperators) (hf : f.PlainOperators)
    (h : e.flatten = f.flatten) : e = f := by
  -- read tokens of these kinds with a limit that neither of the trees exceeds
  let limit := max e.formDepth f.formDepth
  let ts : List Token := e.flatten.map fun kind => ⟨kind, 1, 1, 0, 1⟩
  have hts : ts.map Token.kind = e.flatten := by simp [ts, Function.comp_def]
  have asE : run limit .initial ts = .ok (.complete e) :=
    run_flatten e hts (fits_zero_iff.2 ⟨he, Nat.le_max_left _ _⟩) False.elim
  have asF : run limit .initial ts = .ok (.complete f) :=
    run_flatten f (hts.trans h) (fits_zero_iff.2 ⟨hf, Nat.le_max_right _ _⟩) False.elim
  rw [asE] at asF
  exact State.complete.inj (Except.ok.inj asF)

/-- No expression is written with what is not recognized. -/
theorem unrecognized_notMem_flatten {text : String} (e : Expr) :
    Kind.unrecognized text ∉ e.flatten := by
  induction e with
  | symbol | integer => simp [flatten]
  | lambda _ _ ih => simp [flatten, ih]
  | cond _ _ _ ht hy hn => simp [flatten, ht, hy, hn]
  | apply operator args ho ha => simpa [flatten, ho, flattenAll_eq_flatMap] using ha

/-- Reading accepts the spellings of the trees that do not nest too deep and whose operators are
    plain, and nothing else; it gives the one such tree that is spelled. So only the kinds of the
    tokens matter, and none may be unrecognized. -/
theorem tokens_eq_ok_iff_flatten (maxDepth : Nat) (ts : List Token) :
    (∀ e, tokens maxDepth ts = .ok e ↔
      ts.map Token.kind = e.flatten ∧ e.PlainOperators ∧
        e.formDepth ≤ min maxDepth greatestMaxDepth) ∧
    (∀ e f : Expr, e.PlainOperators → f.PlainOperators → e.flatten = f.flatten → e = f) ∧
    (∀ us : List Token, us.map Token.kind = ts.map Token.kind →
      (tokens maxDepth us).toOption = (tokens maxDepth ts).toOption) ∧
    ∀ text, .unrecognized text ∈ ts.map Token.kind → (tokens maxDepth ts).toOption = none := by
  refine ⟨fun e => ?_, fun e f => eq_of_flatten_eq, fun us => toOption_tokens_congr, ?_⟩
  · rw [tokens_eq_ok_iff_fits, fits_zero_iff]
  · intro text htext
    rw [Option.eq_none_iff_forall_ne_some]
    intro e he
    rw [toOption_eq_some_iff, tokens_eq_ok_iff_fits] at he
    exact unrecognized_notMem_flatten e (he.1 ▸ htext)

/-- A keyword is an argument like any other name, wherever the tokens claim to stand. -/
theorem tokens_keyword_argument :
    tokens 1 [⟨.openParen, 9, 1, 70, 1⟩, ⟨.symbol "f", 2, 5, 0, 8⟩, ⟨.symbol "if", 2, 5, 3, 0⟩,
      ⟨.closeParen, 1, 1, 4, 1⟩] = .ok (.apply (.symbol "f") [.symbol "if"]) := by
  refine ((tokens_eq_ok_iff_flatten 1 _).1 _).2 ⟨rfl, ?_, by decide⟩
  simp [PlainOperators, HasPlainOperator, IsKeyword, keywords, lambdaKeyword, condKeyword]

end Formulary.Expr.Parse
