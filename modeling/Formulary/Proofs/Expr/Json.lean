import Formulary.Expr.Json
import Formulary.Proofs.Expr.Nodes
import Formulary.Proofs.Json.Records

/-!
# Trees read back from JSON

A tree in JSON nests up to three levels for each form in it, so the depth of forms bounds the height
(`height_toJson_le`). Where there is room for its height a written tree is read back, and where
there is none it is not read at all (`readsBack_toJson`).
-/

namespace Formulary.Expr

open Formulary (Json)
open Json (Written)

/-! ## The JSON of a tree -/

theorem allToJson_eq_map (as : List Expr) : allToJson as = as.map toJson := by
  induction as with
  | nil => rfl
  | cons a as ih => rw [allToJson, ih, List.map_cons]

/-- All numbers in a tree are integers of a word. -/
theorem isExact_toJson (e : Expr) : e.toJson.IsExact := by
  induction e with
  | symbol name => exact .object (by simpa using .string name)
  | integer value => exact .object (by simpa using .int (Json.fitsWord_toInt value))
  | lambda params body ih =>
    have hparams : (Json.array (params.map .string)).IsExact := .array (by
      simpa using fun name _ => .string name)
    exact .object (by simpa using .object (by simpa using ⟨hparams, ih⟩))
  | cond test yes no iht ihy ihn =>
    exact .object (by simpa using .object (by simpa using ⟨iht, ihy, ihn⟩))
  | apply operator args iho iha =>
    have hargs : (Json.array (allToJson args)).IsExact := .array (by
      simpa [allToJson_eq_map] using iha)
    exact .object (by simpa using .object (by simpa using ⟨iho, hargs⟩))

theorem height_toJson_lambda (params : List String) (body : Expr) :
    (lambda params body).toJson.height =
      max (Json.array (params.map .string)).height body.toJson.height + 2 := by
  simp only [toJson, Json.height, Json.membersHeight]
  omega

theorem height_toJson_cond (test yes no : Expr) :
    (cond test yes no).toJson.height =
      max (max test.toJson.height yes.toJson.height) no.toJson.height + 2 := by
  simp only [toJson, Json.height, Json.membersHeight]
  omega

theorem height_toJson_apply (operator : Expr) (args : List Expr) :
    (apply operator args).toJson.height =
      max operator.toJson.height (Json.array (allToJson args)).height + 2 := by
  simp only [toJson, Json.height, Json.membersHeight]
  omega

/-- A form takes three levels at most: its case, its fields, and its arguments or parameters. -/
theorem height_toJson_le (e : Expr) : e.toJson.height ≤ 3 * e.formDepth + 1 := by
  induction e with
  | symbol | integer => simp [toJson, Json.int, Json.height, Json.membersHeight]
  | lambda params body ih =>
    rw [height_toJson_lambda, Json.height, Json.itemsHeight_map_string, formDepth]
    omega
  | cond test yes no iht ihy ihn =>
    rw [height_toJson_cond, formDepth]
    omega
  | apply operator args iho iha =>
    have hargs : Json.itemsHeight (allToJson args) ≤ 3 * formDepths args + 1 := by
      rw [Json.itemsHeight_le_iff, allToJson_eq_map]
      intro v hv
      obtain ⟨a, ha, rfl⟩ := List.mem_map.1 hv
      have := formDepths_le_iff.1 (Nat.le_refl (formDepths args)) a ha
      have := iha a ha
      omega
    rw [height_toJson_apply, Json.height, formDepth]
    omega

/-! ## Reading back -/

theorem ofWritten?_integer (n : Int64) (room : Nat) :
    ofWritten? (room + 1) (.object [(some "IntLiteral", .number (some (.integer n.toInt)))]) =
      some (.integer n) := by
  have hread (w : Written) : ofWritten? (room + 1) (.object [(some "IntLiteral", w)]) =
      (w.between? Int64.minValue.toInt Int64.maxValue.toInt).bind fun n =>
        some (.integer (Int64.ofInt n)) := by
    rw [ofWritten?]
    simp [Written.case?]
  rw [hread, Written.between?, if_pos ⟨Int64.minValue_le_toInt n, Int64.toInt_le n⟩,
    Option.bind_some, Int64.ofInt_toInt]

theorem ofWritten?_lambda_of_fields {w : Written} {fields : Json.Fields} {room : Nat}
    (h : w.record? ["params", "body"] false (room + 1) = some fields) :
    ofWritten? (room + 2) (.object [(some "Lambda", w)]) = (do
      let params ← fields.required "params" (Written.texts? room)
      let body ← fields.required "body" (ofWritten? room)
      some (.lambda params body)) := by
  rw [ofWritten?]
  simp [Written.case?, h]

theorem ofWritten?_cond_of_fields {w : Written} {fields : Json.Fields} {room : Nat}
    (h : w.record? ["cond", "then_branch", "else_branch"] false (room + 1) = some fields) :
    ofWritten? (room + 2) (.object [(some "If", w)]) = (do
      let test ← fields.required "cond" (ofWritten? room)
      let yes ← fields.required "then_branch" (ofWritten? room)
      let no ← fields.required "else_branch" (ofWritten? room)
      some (.cond test yes no)) := by
  rw [ofWritten?]
  simp [Written.case?, h]

theorem ofWritten?_apply_of_fields {w : Written} {fields : Json.Fields} {room : Nat}
    (h : w.record? ["operator", "args"] false (room + 1) = some fields) :
    ofWritten? (room + 2) (.object [(some "Apply", w)]) = (do
      let operator ← fields.required "operator" (ofWritten? room)
      let args ← fields.required "args" (Written.list? ofWritten? room)
      some (.apply operator args)) := by
  cases room with
  | zero =>
    -- without room for the operator the arguments do not matter
    have hnone : ofWritten? 0 = fun _ => none := funext ofWritten?_no_room
    rw [ofWritten?]
    simp [Written.case?, hnone, Json.Fields.required]
  | succ room =>
    have hlist : Written.list? (fun _ => ofWritten? room) (room + 1) =
        Written.list? ofWritten? (room + 1) := rfl
    rw [ofWritten?]
    simp [Written.case?, h, hlist]

theorem ofWritten?_lambda (params body : Written) (room : Nat) :
    ofWritten? (room + 2) (.object [(some "Lambda",
        .object [(some "params", params), (some "body", body)])]) = (do
      let params ← params.texts? room
      let body ← ofWritten? room body
      some (.lambda params body)) :=
  (ofWritten?_lambda_of_fields rfl).trans rfl

theorem ofWritten?_cond (test yes no : Written) (room : Nat) :
    ofWritten? (room + 2) (.object [(some "If",
        .object [(some "cond", test), (some "then_branch", yes), (some "else_branch", no)])]) = (do
      let test ← ofWritten? room test
      let yes ← ofWritten? room yes
      let no ← ofWritten? room no
      some (.cond test yes no)) :=
  (ofWritten?_cond_of_fields rfl).trans rfl

theorem ofWritten?_apply (operator args : Written) (room : Nat) :
    ofWritten? (room + 2) (.object [(some "Apply",
        .object [(some "operator", operator), (some "args", args)])]) = (do
      let operator ← ofWritten? room operator
      let args ← args.list? ofWritten? room
      some (.apply operator args)) :=
  (ofWritten?_apply_of_fields rfl).trans rfl

/-- A form takes two levels around its parts. -/
theorem ofWritten?_form {name : String} {w : Written} {e : Expr} {n : Nat}
    (hname : name ≠ "Symbol" ∧ name ≠ "IntLiteral")
    (h : ∀ room, ofWritten? (room + 2) (.object [(some name, w)]) =
      if n ≤ room then some e else none) (room : Nat) :
    ofWritten? room (.object [(some name, w)]) = if n + 2 ≤ room then some e else none := by
  -- with less than two levels the case or its fields cannot be entered
  rcases room with _ | _ | room
  · rw [ofWritten?_no_room, if_neg (by omega)]
  · rw [ofWritten?, if_neg (by omega)]
    simp [Written.case?, hname]
  · rw [h]
    simp only [Nat.add_le_add_iff_right]

/-- Where there is room for its height a written tree is read back, elsewhere nothing is read. -/
theorem readsBack_toJson (e : Expr) : Json.ReadsBack ofWritten? e.toJson e := by
  intro room
  induction e generalizing room with
  | symbol name =>
    cases room with
    | zero => simp [ofWritten?_no_room, toJson, Json.height]
    | succ room =>
      simp [toJson, Json.height, Json.membersHeight, Json.asWritten, Json.membersAsWritten,
        ofWritten?, Written.case?, Written.text?]
  | integer value =>
    cases room with
    | zero => simp [ofWritten?_no_room, toJson, Json.height]
    | succ room =>
      refine (ofWritten?_integer value room).trans (if_pos ?_).symm
      simp [toJson, Json.int, Json.height, Json.membersHeight]
  | lambda params body ih =>
    rw [height_toJson_lambda]
    refine ofWritten?_form (by decide) (fun n => (ofWritten?_lambda _ _ n).trans ?_) room
    simp only [Json.readsBack_texts params _, ih, Option.bind_eq_bind, Json.bind_ite, ← ite_and,
      Nat.max_le]
  | cond test yes no iht ihy ihn =>
    rw [height_toJson_cond]
    refine ofWritten?_form (by decide) (fun n => (ofWritten?_cond _ _ _ n).trans ?_) room
    simp only [iht, ihy, ihn, Option.bind_eq_bind, Json.bind_ite, ← ite_and, Nat.max_le, and_assoc]
  | apply operator args iho iha =>
    have hargs : Json.ReadsBack (Written.list? ofWritten?) (.array (allToJson args)) args :=
      allToJson_eq_map args ▸ Json.readsBack_array iha
    rw [height_toJson_apply]
    refine ofWritten?_form (by decide) (fun n => (ofWritten?_apply _ _ n).trans ?_) room
    simp only [iho, hargs _, Option.bind_eq_bind, Json.bind_ite, ← ite_and, Nat.max_le]

/-! ## Sorted trees -/

/-- A form takes two levels around its parts also if these stand in another order. -/
theorem readsSorted_form {name : String} {members : List (String × Json)} {e : Expr}
    (h : ∀ room, Json.membersHeight members ≤ room →
      ofWritten? (room + 2) (.object [(some name, (Json.object members).sorted.asWritten)]) =
        some e) :
    Json.ReadsSorted ofWritten? (.object [(name, .object members)]) e := by
  intro room hroom
  simp only [Json.height, Json.membersHeight, Nat.max_zero] at hroom
  obtain ⟨below, rfl⟩ : ∃ below, room = below + 2 := ⟨room - 2, by omega⟩
  exact h below (by omega)

/-- A written tree is read back also if the members of its objects are sorted. -/
theorem readsSorted_toJson (e : Expr) : Json.ReadsSorted ofWritten? e.toJson e := by
  induction e with
  | symbol name => exact (readsBack_toJson (symbol name)).readsSorted rfl
  | integer value => exact (readsBack_toJson (integer value)).readsSorted rfl
  | lambda params body ih =>
    refine readsSorted_form fun room hroom => ?_
    simp only [Json.membersHeight, Nat.max_le] at hroom
    obtain ⟨fields, hfields, hlookup⟩ := Json.exists_fields_sorted ["params", "body"]
      [("params", .array (params.map .string)), ("body", body.toJson)] room
    have hparams := Json.readsSorted_texts params room hroom.1
    have hbody := ih room hroom.2.1
    rw [ofWritten?_lambda_of_fields hfields]
    simp [Json.Fields.required, hlookup, List.lookup_cons, hparams, hbody]
  | cond test yes no iht ihy ihn =>
    refine readsSorted_form fun room hroom => ?_
    simp only [Json.membersHeight, Nat.max_le] at hroom
    obtain ⟨fields, hfields, hlookup⟩ := Json.exists_fields_sorted
      ["cond", "then_branch", "else_branch"]
      [("cond", test.toJson), ("then_branch", yes.toJson), ("else_branch", no.toJson)] room
    have htest := iht room hroom.1
    have hyes := ihy room hroom.2.1
    have hno := ihn room hroom.2.2.1
    rw [ofWritten?_cond_of_fields hfields]
    simp [Json.Fields.required, hlookup, List.lookup_cons, htest, hyes, hno]
  | apply operator args iho iha =>
    refine readsSorted_form fun room hroom => ?_
    simp only [Json.membersHeight, Nat.max_le] at hroom
    obtain ⟨fields, hfields, hlookup⟩ := Json.exists_fields_sorted ["operator", "args"]
      [("operator", operator.toJson), ("args", .array (allToJson args))] room
    have hoperator := iho room hroom.1
    have hargs : Json.ReadsSorted (Written.list? ofWritten?) (.array (allToJson args)) args :=
      allToJson_eq_map args ▸ Json.readsSorted_array iha
    rw [ofWritten?_apply_of_fields hfields]
    simp [Json.Fields.required, hlookup, List.lookup_cons, hoperator, hargs room hroom.2.1]

end Formulary.Expr
