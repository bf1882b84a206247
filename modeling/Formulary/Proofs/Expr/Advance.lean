import Formulary.Proofs.Expr.Automaton
import Formulary.Proofs.Expr.Nodes

/-!
# How reading a token changes the state

`Advance` lists the moves of the automaton: which tokens a state takes and what it becomes. All that
is kept from one state to the next can be proved on it, move by move.

* `advance_of_step`, `step_of_advance`: the automaton makes these moves and no others.
-/

namespace Formulary.Expr.Parse

open Token (Kind)

/-! ## Moves -/

/-- The innermost open form waits for its first expression. -/
def WaitsForHead : List Opening → Prop
  | ⟨_, .head⟩ :: _ => True
  | _ => False

/-- Reading the token `t`, at most `limit` forms being allowed to be open, leads from a state to
    another. -/
inductive Advance (limit : Nat) (t : Token) : State → State → Prop
  | openForm {around : List Opening} (ht : t.kind = .openParen) (h : around.length < limit) :
    Advance limit t (.ready around) (.ready (⟨Spot.of t, .head⟩ :: around))
  | headLambda {spot : Spot} {around : List Opening} (ht : t.kind = .symbol lambdaKeyword) :
    Advance limit t (.ready (⟨spot, .head⟩ :: around)) (.lambdaHead spot around)
  | headCond {spot : Spot} {around : List Opening} (ht : t.kind = .symbol condKeyword) :
    Advance limit t (.ready (⟨spot, .head⟩ :: around)) (.ready (⟨spot, .branch #[]⟩ :: around))
  | symbol {name : String} {around : List Opening} (ht : t.kind = .symbol name)
    (h : WaitsForHead around → name ∉ keywords) :
    Advance limit t (.ready around) (supply (.symbol name) around)
  | integer {value : Int64} {around : List Opening} (ht : t.kind = .integer value) :
    Advance limit t (.ready around) (supply (.integer value) around)
  | closeCond {spot : Spot} {parts : Array Expr} {test yes no : Expr} {around : List Opening}
    (ht : t.kind = .closeParen) (h : parts.toList = [test, yes, no]) :
    Advance limit t (.ready (⟨spot, .branch parts⟩ :: around)) (supply (.cond test yes no) around)
  | closeApply {spot : Spot} {operator : Expr} {args : Array Expr} {around : List Opening}
    (ht : t.kind = .closeParen) :
    Advance limit t (.ready (⟨spot, .argument operator args⟩ :: around))
      (supply (.apply operator args.toList) around)
  | openParams {spot : Spot} {around : List Opening} (ht : t.kind = .openBracket) :
    Advance limit t (.lambdaHead spot around) (.lambdaParams spot #[] around)
  | param {spot : Spot} {params : Array String} {name : String} {around : List Opening}
    (ht : t.kind = .symbol name) :
    Advance limit t (.lambdaParams spot params around)
      (.lambdaParams spot (params.push name) around)
  | closeParams {spot : Spot} {params : Array String} {around : List Opening}
    (ht : t.kind = .closeBracket) :
    Advance limit t (.lambdaParams spot params around) (.ready (⟨spot, .body params⟩ :: around))
  | closeLambda {spot : Spot} {params : Array String} {body : Expr} {around : List Opening}
    (ht : t.kind = .closeParen) :
    Advance limit t (.lambdaEnd spot params body around)
      (supply (.lambda params.toList body) around)

variable {limit : Nat} {t : Token}

theorem advance_of_readSymbol {name : String} (ht : t.kind = .symbol name)
    (around : List Opening) : Advance limit t (.ready around) (readSymbol name around) := by
  unfold readSymbol
  split
  · -- the first word of a form: a keyword, or an operator
    split_ifs with hl hc
    · exact .headLambda (hl ▸ ht)
    · exact .headCond (hc ▸ ht)
    · exact .symbol ht fun _ => by simp [keywords, hl, hc]
  · next h =>
    refine .symbol ht fun hw => ?_
    unfold WaitsForHead at hw
    split at hw
    · exact absurd rfl (h _ _)
    · exact hw.elim

theorem advance_of_close {spot : Spot} {around : List Opening} {state : State}
    (ht : t.kind = .closeParen) (h : close spot around = .ok state) :
    Advance limit t (.ready around) state := by
  unfold close at h
  split at h
  · cases h
  · cases h
  · cases h
  · split at h
    · next hp => exact Except.ok.inj h ▸ .closeCond ht hp
    · cases h
  · exact Except.ok.inj h ▸ .closeApply ht

theorem advance_of_stepReady {around : List Opening} {state : State}
    (h : stepReady limit around (Spot.of t) t.kind = .ok state) :
    Advance limit t (.ready around) state := by
  generalize ht : t.kind = kind at h
  cases kind with
  | openParen =>
    simp only [stepReady] at h
    split_ifs at h with hl
    exact Except.ok.inj h ▸ .openForm ht hl
  | closeParen => exact advance_of_close ht h
  | symbol name => exact Except.ok.inj h ▸ advance_of_readSymbol ht around
  | integer value => exact Except.ok.inj h ▸ .integer ht
  | openBracket | closeBracket | unrecognized => cases h

/-- The automaton makes no other moves. -/
theorem advance_of_step {state state' : State} (h : step limit state t = .ok state') :
    Advance limit t state state' := by
  unfold step at h
  split at h
  · cases h
  · cases h
  · exact advance_of_stepReady h
  · next ht => exact Except.ok.inj h ▸ .openParams ht
  · cases h
  · next ht => exact Except.ok.inj h ▸ .param ht
  · next ht => exact Except.ok.inj h ▸ .closeParams ht
  · cases h
  · next ht => exact Except.ok.inj h ▸ .closeLambda ht
  · cases h

theorem readSymbol_of_not_keyword {name : String} {around : List Opening}
    (h : WaitsForHead around → name ∉ keywords) :
    readSymbol name around = supply (.symbol name) around := by
  unfold readSymbol
  split
  · have hn := h trivial
    simp only [keywords, List.mem_cons, List.not_mem_nil, or_false, not_or] at hn
    rw [if_neg hn.1, if_neg hn.2]
  · rfl

/-- The automaton makes all of these moves. -/
theorem step_of_advance {state state' : State} (h : Advance limit t state state') :
    step limit state t = .ok state' := by
  cases h with
  | openForm ht hl => simp [step, stepReady, ht, hl]
  | headLambda ht => simp [step, stepReady, readSymbol, ht]
  | headCond ht => simp [step, stepReady, readSymbol, ht, lambdaKeyword, condKeyword]
  | symbol ht h => simp [step, stepReady, ht, readSymbol_of_not_keyword h]
  | closeCond ht hp => simp [step, stepReady, close, ht, hp]
  | integer ht | closeApply ht => simp [step, stepReady, close, ht]
  | openParams ht | param ht | closeParams ht | closeLambda ht => simp [step, ht]

end Formulary.Expr.Parse
