import Formulary.Proofs.Expr.Validity
import Mathlib.Data.List.Infix

/-!
# The violation that is reported

The names of a tree stand in a row as they are read: an operator before its arguments, parameters
before the body, a condition before its branches (`occurrences`). Whether a name is in order is a
question of the name alone and, for a parameter, of those before it in the same list (`HasFault`).
The check of a tree stops at the first name in the row that is not.

* `validate_eq`: the check as a search through the row;
* `validate_first`: it passes if no name in the tree is out of order, and reports the first that is.
-/

namespace Formulary.Expr

/-- A name where it stands. -/
structure Occurrence where
  name : String
  /-- If it is a parameter, those before it in the list of its lambda. -/
  earlier : List String

/-- The parameters of a lambda where they stand. -/
def paramOccurrences (params : List String) : List Occurrence :=
  List.zipWith (fun earlier name => ⟨name, earlier⟩) params.inits params

mutual

/-- The names of a tree in the order in which it is read, those of forms aside. -/
def occurrences : Expr → List Occurrence
  | symbol name => [⟨name, []⟩]
  | integer _ => []
  | lambda params body => paramOccurrences params ++ body.occurrences
  | cond test yes no => test.occurrences ++ yes.occurrences ++ no.occurrences
  | apply operator args => operator.occurrences ++ allOccurrences args

/-- The names of trees in a row. -/
def allOccurrences : List Expr → List Occurrence
  | [] => []
  | a :: as => a.occurrences ++ allOccurrences as

end

/-- What is wrong with a name where it stands. -/
inductive HasFault : Occurrence → Violation → Prop
  | reserved {name : String} {earlier : List String} (h : name ∈ keywords) :
      HasFault ⟨name, earlier⟩ (.reservedName name)
  | invalid {name : String} {earlier : List String} (hkeyword : name ∉ keywords)
      (h : Token.isSymbol name = false) : HasFault ⟨name, earlier⟩ (.invalidName name)
  | duplicate {name : String} {earlier : List String} (hname : IsProperName name)
      (h : name ∈ earlier) : HasFault ⟨name, earlier⟩ (.duplicateParam name)

namespace Occurrence

/-- What is wrong with a name where it stands, if anything is. -/
def fault? (o : Occurrence) : Option Violation :=
  match checkName o.name with
  | .error v => some v
  | .ok () => if o.name ∈ o.earlier then some (.duplicateParam o.name) else none

theorem fault?_eq_some_iff {o : Occurrence} {v : Violation} :
    o.fault? = some v ↔ HasFault o v := by
  obtain ⟨name, earlier⟩ := o
  constructor
  · intro h
    simp only [fault?, checkName] at h
    by_cases hkeyword : name ∈ keywords
    · simp only [if_pos hkeyword, Option.some.injEq] at h
      exact h ▸ .reserved hkeyword
    by_cases hsymbol : Token.isSymbol name
    · simp only [if_neg hkeyword, if_pos hsymbol, Option.ite_none_right_eq_some,
        Option.some.injEq] at h
      exact h.2 ▸ .duplicate ⟨hkeyword, hsymbol⟩ h.1
    · simp only [if_neg hkeyword, if_neg hsymbol, Option.some.injEq] at h
      exact h ▸ .invalid hkeyword (by simpa using hsymbol)
  · rintro (h | ⟨hkeyword, h⟩ | ⟨hname, h⟩)
    · simp [fault?, checkName, h]
    · simp [fault?, checkName, hkeyword, h]
    · simp [fault?, checkName, hname.1, hname.2, h]

end Occurrence

/-- The check of names in a row. -/
def checkAll (os : List Occurrence) : Except Violation Unit :=
  match os.findSome? Occurrence.fault? with
  | some v => .error v
  | none => .ok ()

theorem checkAll_append (os ps : List Occurrence) :
    checkAll (os ++ ps) = (checkAll os >>= fun _ => checkAll ps) := by
  rw [checkAll, List.findSome?_append, checkAll]
  cases os.findSome? Occurrence.fault? <;> rfl

theorem checkAll_cons (o : Occurrence) (os : List Occurrence) :
    checkAll (o :: os) = (checkAll [o] >>= fun _ => checkAll os) :=
  checkAll_append [o] os

theorem checkAll_symbol (name : String) (earlier : List String) :
    checkAll [⟨name, earlier⟩] = (checkName name >>= fun _ =>
      if name ∈ earlier then .error (.duplicateParam name) else .ok ()) := by
  simp only [checkAll, List.findSome?_singleton, Occurrence.fault?]
  cases checkName name with
  | error v => rfl
  | ok => by_cases h : name ∈ earlier <;> simp [h] <;> rfl

/-- The parameters that have been seen are those before the ones to come. -/
theorem checkParams_eq {seen earlier : List String} (h : ∀ name, name ∈ seen ↔ name ∈ earlier)
    (params : List String) : checkParams seen params = checkAll
      (List.zipWith (fun before name => ⟨name, earlier ++ before⟩) params.inits params) := by
  induction params generalizing seen earlier with
  | nil => rfl
  | cons name rest ih =>
    have hseen : ∀ n, n ∈ name :: seen ↔ n ∈ earlier ++ [name] := by simp [h, or_comm]
    rw [checkParams, List.inits_cons, List.zipWith_cons_cons, List.zipWith_map_left, checkAll_cons,
      List.append_nil, checkAll_symbol, bind_assoc]
    congr 1
    funext _
    by_cases hname : name ∈ earlier
    · simp only [h, hname, if_true]
      rfl
    · simp only [h, hname, if_false, ih hseen, List.append_assoc, List.singleton_append]
      rfl

theorem validateAll_eq {es : List Expr} (h : ∀ e ∈ es, validate e = checkAll e.occurrences) :
    validateAll es = checkAll (allOccurrences es) := by
  induction es with
  | nil => rfl
  | cons e es ih =>
    obtain ⟨he, hes⟩ := List.forall_mem_cons.1 h
    rw [validateAll, allOccurrences, checkAll_append, he, ih hes]

/-- The check of a tree is that of its names in a row. -/
theorem validate_eq (e : Expr) : validate e = checkAll e.occurrences := by
  induction e with
  | symbol name =>
    rw [validate, occurrences, checkAll_symbol]
    cases checkName name <;> rfl
  | integer value => rfl
  | lambda params body ih =>
    have hnone : ∀ name : String, name ∈ [] ↔ name ∈ [] := fun _ => Iff.rfl
    rw [validate, occurrences, checkAll_append, ih, checkParams_eq hnone]
    simp only [List.nil_append]
    rfl
  | cond test yes no iht ihy ihn =>
    rw [validate, occurrences, checkAll_append, checkAll_append, iht, ihy, ihn, bind_assoc]
  | apply operator args iho iha =>
    rw [validate, occurrences, checkAll_append, iho, validateAll_eq iha]

/-! ## As it is written -/

theorem map_name_paramOccurrences (params : List String) :
    (paramOccurrences params).map Occurrence.name = params := by
  rw [paramOccurrences, List.map_zipWith]
  induction params with
  | nil => rfl
  | cons name rest ih =>
    rw [List.inits_cons, List.zipWith_cons_cons, List.zipWith_map_left]
    exact congrArg (name :: ·) ih

/-- The names in the order in which they are written, keywords of forms left out. -/
theorem map_name_occurrences_sublist (e : Expr) :
    ((e.occurrences.map Occurrence.name).map Token.Kind.symbol).Sublist e.flatten := by
  induction e with
  | symbol name => exact .refl _
  | integer value => exact List.nil_sublist _
  | lambda params body ih =>
    rw [occurrences, List.map_append, List.map_append, map_name_paramOccurrences, flatten]
    exact .cons _ (.cons _ (.cons _ ((List.Sublist.refl _).append
      (.cons _ (ih.trans (List.sublist_append_left _ _))))))
  | cond test yes no iht ihy ihn =>
    simp only [occurrences, List.map_append, flatten]
    exact .cons _ (.cons _ (((iht.append ihy).append ihn).trans (List.sublist_append_left _ _)))
  | apply operator args iho iha =>
    have hargs : (((allOccurrences args).map Occurrence.name).map Token.Kind.symbol).Sublist
        (flattenAll args) := by
      clear iho
      induction args with
      | nil => exact .slnil
      | cons a as ih =>
        obtain ⟨ha, has⟩ := List.forall_mem_cons.1 iha
        simp only [allOccurrences, List.map_append, flattenAll]
        exact ha.append (ih has)
    simp only [occurrences, List.map_append, flatten]
    exact .cons _ ((iho.append hargs).trans (List.sublist_append_left _ _))

/-- A tree passes if each of its names is a symbol and no keyword, and no lambda binds a name twice.
    Otherwise the first name that is out of order is reported, in the order of reading and
    writing. -/
theorem validate_first (e : Expr) :
    (validate e = .ok () ↔ e.Everywhere HasProperNames) ∧
    (∀ v, validate e = .error v ↔ ∃ before o after, e.occurrences = before ++ o :: after ∧
      HasFault o v ∧ ∀ p ∈ before, ∀ u, ¬HasFault p u) ∧
    ((e.occurrences.map Occurrence.name).map Token.Kind.symbol).Sublist e.flatten := by
  refine ⟨validate_eq_ok_iff, fun v => ?_, map_name_occurrences_sublist e⟩
  have hsearch : validate e = .error v ↔ e.occurrences.findSome? Occurrence.fault? = some v := by
    rw [validate_eq, checkAll]
    cases e.occurrences.findSome? Occurrence.fault? <;> simp
  rw [hsearch, List.findSome?_eq_some_iff]
  simp only [Occurrence.fault?_eq_some_iff, Option.eq_none_iff_forall_ne_some, ne_eq]

/-- A name may be bound again in an inner lambda, and what stands first counts. -/
example : validate (.lambda ["x"] (.lambda ["x"] (.symbol "x"))) = .ok () ∧
    validate (.apply (.lambda ["y", "y", "if"] (.symbol "1")) [.symbol "lam"]) =
      .error (.duplicateParam "y") := by
  decide

end Formulary.Expr
