import Formulary.Proofs.Expr.Advance
import Formulary.Proofs.Outcome

/-!
# The descent reads what the automaton reads

Wherever the descent is called, the automaton is in a state that says what the calls around it are
waiting for. From there on both go along the same tokens: where the descent fails the automaton
fails for the same cause and at the same spot, and where it returns the automaton has come to the
same token, in the state that what was returned leads to (`Follows`). There is one lemma for each
function of the descent, and they call one another as the functions do.

* `tokens_eq`: the descent on some tokens is a run of the automaton over them.
-/

namespace Formulary.Expr.Parse

open Token (Kind)

/-! ## Cursors -/

/-- The spot just past a token. -/
def Spot.past (t : Token) : Spot := ⟨t.line, t.column + t.width⟩

namespace Cursor

/-- The next token is `t`, which is recognized, and the cursor after it is `d`. -/
structure Takes (c : Cursor) (t : Token) (d : Cursor) : Prop where
  rest_eq : c.rest = t :: d.rest
  depth_eq : d.depth = c.depth
  past_eq : d.past = Spot.past t
  recognized : ∀ text, t.kind ≠ .unrecognized text

/-- Either no token is left, or the next one is not recognized, or it is taken. -/
theorem next_cases (c : Cursor) :
    (c.rest = [] ∧ c.next = .ok none) ∨
    (∃ t rest text, c.rest = t :: rest ∧ t.kind = .unrecognized text ∧
      c.next = .error ⟨.unrecognized text, Spot.of t⟩) ∨
    ∃ t, ∃ d : c.Beyond, c.Takes t d ∧ c.next = .ok (some (t, d)) := by
  rcases c with ⟨_ | ⟨t, rest⟩, depth, past⟩
  · exact .inl ⟨rfl, rfl⟩
  · rcases hkind : t.kind with _ | _ | _ | _ | name | value | text
    case unrecognized => exact .inr (.inl ⟨t, rest, text, rfl, hkind, by simp [next, hkind]⟩)
    all_goals
      refine .inr (.inr ⟨t, ⟨⟨rest, depth, Spot.past t⟩, by simp⟩, ⟨rfl, rfl, rfl, ?_⟩, ?_⟩)
      · simp [hkind]
      · simp [next, hkind, Spot.past]

end Cursor

/-! ## Feeding -/

/-- What becomes of a state to which tokens are fed, the one before them ending at `past`. -/
def feed (limit : Nat) : Spot → List Token → State → Except Error Expr
  | past, [], state => finish past state
  | _, t :: ts, state => step limit state t >>= feed limit (Spot.past t) ts

/-- What becomes of a state to which the tokens are fed that a cursor has left. -/
def Cursor.feed (limit : Nat) (c : Cursor) (state : State) : Except Error Expr :=
  Parse.feed limit c.past c.rest state

variable {limit : Nat} {b c d : Cursor} {state state' : State} {t : Token} {α β : Type}

/-- Where nothing is left the automaton is at its end. -/
theorem Cursor.feed_of_nil (h : c.rest = []) (state : State) :
    c.feed limit state = finish c.past state := by
  rw [Cursor.feed, h, Parse.feed]

theorem Cursor.feed_of_cons {rest : List Token} (h : c.rest = t :: rest) (state : State) :
    c.feed limit state = step limit state t >>= Parse.feed limit (Spot.past t) rest := by
  rw [Cursor.feed, h, Parse.feed]

/-- The automaton steps over a token that is taken. -/
theorem Cursor.Takes.feed_eq (h : c.Takes t d) (state : State) :
    c.feed limit state = step limit state t >>= d.feed limit := by
  rw [Cursor.feed_of_cons h.rest_eq, ← h.past_eq]
  rfl

/-- What is not recognized is refused in every state in which something is still to be read. -/
theorem Cursor.feed_of_unrecognized {rest : List Token} {text : String} (h : c.rest = t :: rest)
    (ht : t.kind = .unrecognized text) (hstate : ∀ e, state ≠ .complete e) :
    c.feed limit state = .error ⟨.unrecognized text, Spot.of t⟩ := by
  have hstep : step limit state t = .error ⟨.unrecognized text, Spot.of t⟩ := by
    cases state with
    | complete e => exact absurd rfl (hstate e)
    | ready | lambdaHead | lambdaParams | lambdaEnd => simp [step, ht]
  rw [Cursor.feed_of_cons h, hstep]
  rfl

/-- From the cursor `c` on, feeding tokens to a state does what a part of the descent does: it fails
    as that fails, or it comes to where that ends, in the state that `next` tells of what was
    read. -/
def Follows (limit : Nat) (c : Cursor) (state : State) (result : Except Error (α × b.Beyond))
    (next : α → Except Error State) : Prop :=
  match result with
  | .error error => c.feed limit state = .error error
  | .ok (a, d) => d.val.depth = c.depth ∧ c.feed limit state = next a >>= d.val.feed limit

section Follows

variable {result : Except Error (α × b.Beyond)} {next : α → Except Error State}

namespace Cursor.Takes

/-- The token is refused. -/
theorem follows_error (h : c.Takes t d) {error : Error}
    (hstep : step limit state t = .error error) :
    Follows (b := b) limit c state (.error error) next := by
  rw [Follows, h.feed_eq, hstep]
  rfl

/-- The token is all that is read. -/
theorem follows_ok {d : b.Beyond} (h : c.Takes t d) {a : α} (hstep : step limit state t = next a) :
    Follows limit c state (.ok (a, d)) next := by
  rw [Follows, h.feed_eq, hstep]
  exact ⟨h.depth_eq, rfl⟩

/-- The token is read, and then the rest. -/
theorem follows (h : c.Takes t d) (hstep : step limit state t = .ok state')
    (hrest : Follows limit d state' result next) : Follows limit c state result next := by
  have hfeed : c.feed limit state = d.feed limit state' := by
    rw [h.feed_eq, hstep, ok_bind]
  rcases result with error | ⟨a, e⟩
  · exact hfeed.trans hrest
  · exact ⟨hrest.1.trans h.depth_eq, hfeed.trans hrest.2⟩

end Cursor.Takes

/-- A part of the descent is followed, and then another one from where it ends. -/
theorem Follows.bind {first : Except Error (β × c.Beyond)} {middle : β → State}
    {second : β × c.Beyond → Except Error (α × b.Beyond)}
    (hfirst : Follows limit c state first fun x => .ok (middle x))
    (hsecond : ∀ x, ∀ d : c.Beyond, d.val.depth = c.depth →
      Follows limit d (middle x) (second (x, d)) next) :
    Follows limit c state (first >>= second) next := by
  rcases first with error | ⟨x, d⟩
  · exact hfirst
  · obtain ⟨hdepth, hfeed⟩ := hfirst
    have hrest := hsecond x d hdepth
    rw [ok_bind]
    generalize second (x, d) = result at hrest ⊢
    rcases result with error | ⟨a, e⟩
    · exact hfeed.trans hrest
    · exact ⟨hrest.1.trans hdepth, hfeed.trans hrest.2⟩

/-- Both look at the next token: they end where there is none, and refuse it if it is not
    recognized. -/
theorem follows_next {rest : Option (Token × c.Beyond) → Except Error (α × b.Beyond)}
    (hstate : ∀ e, state ≠ .complete e)
    (hend : c.rest = [] → Follows limit c state (rest none) next)
    (htoken : ∀ t, ∀ d : c.Beyond, c.Takes t d → Follows limit c state (rest (some (t, d))) next) :
    Follows limit c state (c.next >>= rest) next := by
  rcases c.next_cases with ⟨hrest, hnext⟩ | ⟨t, ts, text, hrest, hkind, hnext⟩ | ⟨t, d, ht, hnext⟩
  · rw [hnext, ok_bind]
    exact hend hrest
  · rw [hnext]
    exact Cursor.feed_of_unrecognized hrest hkind hstate
  · rw [hnext, ok_bind]
    exact htoken t d ht

/-- What was read is made part of something greater, and nothing else is read. -/
theorem Follows.map {d : b.Beyond} (f : β → α) {first : Except Error (β × d.val.Beyond)}
    (hfirst : Follows limit d state first fun x => next (f x)) :
    Follows limit d state (first >>= fun p => pure (f p.1, d.trans p.2)) next := by
  rcases first with error | ⟨x, e⟩
  · exact hfirst
  · exact hfirst

end Follows

/-! ## Parameter lists -/

/-- The names up to the parenthesis that ends them become the parameters. -/
theorem follows_params (c : Cursor) (spot : Spot) (names : List String) (around : List Opening) :
    Follows limit c (.lambdaParams spot names.toArray around) (params c) fun more =>
      .ok (.ready (⟨spot, .body (names ++ more).toArray⟩ :: around)) := by
  rw [params]
  refine follows_next nofun (Cursor.feed_of_nil · _) fun t d ht => ?_
  dsimp only
  rcases hkind : t.kind with _ | _ | _ | _ | name | value | text
  case symbol =>
    have hstep : step limit (.lambdaParams spot names.toArray around) t =
        .ok (.lambdaParams spot (names ++ [name]).toArray around) := by
      simp [step, hkind]
    dsimp only
    refine ht.follows hstep (.map (List.cons name) ?_)
    simpa using follows_params d spot (names ++ [name]) around
  case closeBracket => exact ht.follows_ok (by simp [step, hkind])
  case unrecognized => exact absurd hkind (ht.recognized text)
  all_goals exact ht.follows_error (by simp [step, hkind])
termination_by c.rest.length
decreasing_by exact d.property

theorem follows_paramList (c : Cursor) (spot : Spot) (around : List Opening) :
    Follows limit c (.lambdaHead spot around) (paramList c) fun names =>
      .ok (.ready (⟨spot, .body names.toArray⟩ :: around)) := by
  rw [paramList]
  refine follows_next nofun (Cursor.feed_of_nil · _) fun t d ht => ?_
  dsimp only
  rcases hkind : t.kind with _ | _ | _ | _ | name | value | text
  case openBracket =>
    have hstep : step limit (.lambdaHead spot around) t =
        .ok (.lambdaParams spot #[] around) := by simp [step, hkind]
    exact ht.follows hstep (.map id (follows_params d spot [] around))
  case unrecognized => exact absurd hkind (ht.recognized text)
  all_goals exact ht.follows_error (by simp [step, hkind])

/-! ## Expressions -/

/-- Of the innermost open form any number of expressions may follow. -/
inductive Collects : (Array Expr → Hole) → Prop
  | branch : Collects .branch
  | argument (operator : Expr) : Collects (.argument operator)

namespace Collects

variable {hole : Array Expr → Hole} {spot : Spot} {around : List Opening}

/-- An item that is supplied comes behind the others. -/
theorem supply_eq (h : Collects hole) (es : List Expr) (e : Expr) :
    supply e (⟨spot, hole es.toArray⟩ :: around) =
      .ready (⟨spot, hole (es ++ [e]).toArray⟩ :: around) := by
  cases h <;> simp [supply]

/-- It does not matter where such a form is closed. -/
theorem close_eq (h : Collects hole) (es : Array Expr) (closing closing' : Spot) :
    close closing (⟨spot, hole es⟩ :: around) = close closing' (⟨spot, hole es⟩ :: around) := by
  cases h <;> rfl

theorem not_waitsForHead (h : Collects hole) (es : Array Expr) :
    ¬WaitsForHead (⟨spot, hole es⟩ :: around) := by
  cases h <;> exact id

end Collects

/-- An expression is called for: none is open around it, or the next token is not the end of the
    innermost form, nor a keyword at its head. -/
def CallsFor (around : List Opening) (c : Cursor) : Prop :=
  around = [] ∨ ∃ t ∈ c.rest.head?, t.kind ≠ .closeParen ∧
    (WaitsForHead around → t.kind ≠ .symbol lambdaKeyword ∧ t.kind ≠ .symbol condKeyword)

mutual

/-- An expression is read to its end and supplied to what is open around it. -/
theorem follows_expression (limit : Nat) (c : Cursor) (around : List Opening)
    (hdepth : c.depth = around.length) (hcalls : CallsFor around c) :
    Follows limit c (.ready around) (expression limit c) fun e => .ok (supply e around) := by
  rw [expression]
  refine follows_next nofun (fun hrest => ?_) fun t d ht => ?_
  · obtain rfl : around = [] := by simpa [CallsFor, hrest] using hcalls
    exact Cursor.feed_of_nil hrest _
  · dsimp only
    simp only [CallsFor, ht.rest_eq, List.head?_cons, Option.mem_some_iff,
      exists_eq_left'] at hcalls
    have hdepth' : d.val.depth = around.length := ht.depth_eq.trans hdepth
    rcases hkind : t.kind with _ | _ | _ | _ | name | value | text
    case openParen =>
      have hroom : limit < d.val.deeper.depth ↔ ¬around.length < limit := by
        simp only [Cursor.deeper, hdepth']
        omega
      dsimp only
      split_ifs with hdeep
      · exact ht.follows_error (by simp [step, stepReady, hkind, hroom.1 hdeep])
      · have hform := follows_form limit t d.val.deeper around (congrArg (· + 1) hdepth')
        have hstep : step limit (.ready around) t =
            .ok (.ready (⟨Spot.of t, .head⟩ :: around)) := by
          simp [step, stepReady, hkind, not_not.1 (mt hroom.2 hdeep)]
        generalize form limit t d.val.deeper = result at hform ⊢
        rcases result with error | ⟨e, closed⟩
        · exact ht.follows hstep hform
        · refine ht.follows hstep ⟨?_, hform.2⟩
          have := hform.1
          simp only [Cursor.deeper] at this
          simp only [Cursor.Beyond.trans, Cursor.shallower, this]
          omega
    case symbol =>
      have hname : WaitsForHead around → name ∉ keywords := by
        intro hhead
        obtain rfl | ⟨-, hwords⟩ := hcalls
        · exact hhead.elim
        · simpa [hkind, keywords] using hwords hhead
      exact ht.follows_ok (by simp [step, stepReady, hkind, readSymbol_of_not_keyword hname])
    case integer => exact ht.follows_ok (by simp [step, stepReady, hkind])
    case unrecognized => exact absurd hkind (ht.recognized text)
    case closeParen =>
      obtain rfl : around = [] := hcalls.resolve_right fun h => h.1 hkind
      exact ht.follows_error (by simp [step, stepReady, close, hkind])
    all_goals exact ht.follows_error (by simp [step, stepReady, hkind])
termination_by 3 * c.rest.length
decreasing_by
  have := d.property
  simp only [Cursor.deeper]
  omega

/-- So is a form, of which the parenthesis has been read. -/
theorem follows_form (limit : Nat) (opening : Token) (c : Cursor) (around : List Opening)
    (hdepth : c.depth = around.length + 1) :
    Follows limit c (.ready (⟨Spot.of opening, .head⟩ :: around)) (form limit opening c)
      fun e => .ok (supply e around) := by
  rw [form]
  refine follows_next nofun (Cursor.feed_of_nil · _) fun t d ht => ?_
  have hdepth' : d.val.depth = around.length + 1 := ht.depth_eq.trans hdepth
  dsimp only
  split_ifs with hclose hlambda hcond
  · exact ht.follows_error (by simp [step, stepReady, close, hclose])
  · have hstep : step limit (.ready (⟨Spot.of opening, .head⟩ :: around)) t =
        .ok (.lambdaHead (Spot.of opening) around) := by
      simp [step, stepReady, readSymbol, hlambda]
    exact ht.follows hstep (.map id (follows_lambda limit opening d around hdepth'))
  · have hstep : step limit (.ready (⟨Spot.of opening, .head⟩ :: around)) t =
        .ok (.ready (⟨Spot.of opening, .branch #[]⟩ :: around)) := by
      simp [step, stepReady, readSymbol, hcond, lambdaKeyword, condKeyword]
    exact ht.follows hstep (.map id (follows_cond limit opening d around hdepth'))
  · have hoperator := follows_expression limit c (⟨Spot.of opening, .head⟩ :: around) hdepth
      (.inr ⟨t, by simp [ht.rest_eq], hclose, fun _ => ⟨hlambda, hcond⟩⟩)
    refine hoperator.bind fun operator d hd => ?_
    dsimp only
    refine .map (Expr.apply operator) ?_
    exact follows_items limit opening d (.argument operator) [] around (hd.trans hdepth)
termination_by 3 * c.rest.length + 1
decreasing_by
  · have := d.property
    omega
  · have := d.property
    omega
  · omega
  · have := d.property
    omega

theorem follows_lambda (limit : Nat) (opening : Token) (c : Cursor) (around : List Opening)
    (hdepth : c.depth = around.length + 1) :
    Follows limit c (.lambdaHead (Spot.of opening) around) (lambda limit opening c)
      fun e => .ok (supply e around) := by
  rw [lambda]
  refine (follows_paramList c (Spot.of opening) around).bind fun names d hd => ?_
  dsimp only
  refine follows_next nofun (Cursor.feed_of_nil · _) fun t _ ht => ?_
  dsimp only
  split_ifs with hclose
  · exact ht.follows_error (by simp [step, stepReady, close, hclose])
  have hbody := follows_expression limit d (⟨Spot.of opening, .body names.toArray⟩ :: around)
    (hd.trans hdepth) (.inr ⟨t, by simp [ht.rest_eq], hclose, False.elim⟩)
  refine hbody.bind fun body e he => ?_
  dsimp only
  refine follows_next nofun (Cursor.feed_of_nil · _) fun t closed ht => ?_
  dsimp only
  split_ifs with hclose
  · exact ht.follows_ok (d := (d.trans e).trans closed) (by simp [supply, step, hclose])
  · refine ht.follows_error ?_
    rcases hkind : t.kind with _ | _ | _ | _ | name | value | text
    case unrecognized => exact absurd hkind (ht.recognized text)
    case closeParen => exact absurd hkind hclose
    all_goals simp [supply, step, hkind]
termination_by 3 * c.rest.length + 1
decreasing_by
  have := d.property
  omega

theorem follows_cond (limit : Nat) (opening : Token) (c : Cursor) (around : List Opening)
    (hdepth : c.depth = around.length + 1) :
    Follows limit c (.ready (⟨Spot.of opening, .branch #[]⟩ :: around)) (cond limit opening c)
      fun e => .ok (supply e around) := by
  have hitems := follows_items limit opening c .branch [] around hdepth
  rw [cond]
  generalize items limit opening c = result at hitems ⊢
  rcases result with error | ⟨_ | ⟨test, _ | ⟨yes, _ | ⟨no, _ | ⟨more, parts⟩⟩⟩⟩, closed⟩
  case error => exact hitems
  case ok.cons.cons.cons.nil => exact hitems
  all_goals exact hitems.2
termination_by 3 * c.rest.length + 2

/-- Items are collected up to the parenthesis that ends them. -/
theorem follows_items (limit : Nat) (opening : Token) (c : Cursor) {hole : Array Expr → Hole}
    (hhole : Collects hole) (es : List Expr) (around : List Opening)
    (hdepth : c.depth = around.length + 1) :
    Follows limit c (.ready (⟨Spot.of opening, hole es.toArray⟩ :: around))
      (items limit opening c) fun more =>
        close (Spot.of opening) (⟨Spot.of opening, hole (es ++ more).toArray⟩ :: around) := by
  rw [items]
  refine follows_next nofun (Cursor.feed_of_nil · _) fun t d ht => ?_
  dsimp only
  split_ifs with hclose
  · refine ht.follows_ok ?_
    rw [List.append_nil, ← hhole.close_eq _ (Spot.of t)]
    simp [step, stepReady, hclose]
  · have he := follows_expression limit c (⟨Spot.of opening, hole es.toArray⟩ :: around) hdepth
      (.inr ⟨t, by simp [ht.rest_eq], hclose, fun h => absurd h (hhole.not_waitsForHead _)⟩)
    simp only [hhole.supply_eq] at he
    refine he.bind fun e d hd => ?_
    dsimp only
    refine .map (List.cons e) ?_
    simpa using follows_items limit opening d hhole (es ++ [e]) around (hd.trans hdepth)
termination_by 3 * c.rest.length + 1
decreasing_by
  · omega
  · have := d.property
    omega

end

/-! ## The whole program -/

/-- Feeding is running over all tokens and then finishing, where the last one ends. -/
theorem feed_eq (past : Spot) (ts : List Token) (state : State) :
    feed limit past ts state =
      run limit state ts >>= finish ((ts.getLast?.map Spot.past).getD past) := by
  induction ts generalizing past state with
  | nil => rfl
  | cons t ts ih =>
    have hlast : ((t :: ts).getLast?.map Spot.past).getD past =
        (ts.getLast?.map Spot.past).getD (Spot.past t) := by
      cases ts <;> simp [List.getLast?_cons]
    rw [hlast, feed, run, List.foldlM_cons, bind_assoc]
    exact bind_congr fun state' => ih (Spot.past t) state'

/-- The descent reads an expression exactly if the automaton does, and what they refuse they refuse
    alike. -/
theorem tokens_eq (maxDepth : Nat) (ts : List Token) :
    tokens maxDepth ts =
      run (min maxDepth greatestMaxDepth) .initial ts >>= finish (endSpot ts) := by
  have hfollows := follows_expression (min maxDepth greatestMaxDepth) (.start ts) [] rfl (.inl rfl)
  have hend : endSpot ts = (ts.getLast?.map Spot.past).getD ⟨1, 1⟩ := by
    unfold endSpot
    cases ts.getLast? <;> rfl
  rw [hend, ← feed_eq, tokens]
  generalize expression _ (.start ts) = result at hfollows ⊢
  rcases result with error | ⟨e, c⟩
  · exact hfollows.symm
  · refine Eq.trans ?_ hfollows.2.symm
    rw [ok_bind, ok_bind]
    dsimp only
    split
    · next hrest =>
      rw [Cursor.feed_of_nil hrest]
      rfl
    · next t rest hrest =>
      rw [Cursor.feed_of_cons hrest]
      rfl

end Formulary.Expr.Parse
