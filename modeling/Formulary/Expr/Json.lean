import Formulary.Expr
import Formulary.Json.Fields

/-!
# Expressions in JSON

An expression is an object with one member, named for its case. Reading accepts all that
`Formulary.Json.Fields` accepts for a record in place of the fields of a case.
-/

namespace Formulary.Expr

open Formulary (Json)

mutual

/-- The JSON value of an expression. -/
def toJson : Expr → Json
  | symbol name => .object [("Symbol", .string name)]
  | integer value => .object [("IntLiteral", .int value.toInt)]
  | lambda params body =>
    .object [("Lambda", .object
      [("params", .array (params.map .string)), ("body", body.toJson)])]
  | cond test yes no =>
    .object [("If", .object
      [("cond", test.toJson), ("then_branch", yes.toJson), ("else_branch", no.toJson)])]
  | apply operator args =>
    .object [("Apply", .object
      [("operator", operator.toJson), ("args", .array (allToJson args))])]

/-- The JSON values of expressions in a row. -/
def allToJson : List Expr → List Json
  | [] => []
  | a :: as => a.toJson :: allToJson as

end

/-- Reads an expression, at most `room` levels of arrays and objects deep; an expression takes two
    levels at least for each form in it, which bounds the recursion. -/
def ofWritten? (room : Nat) (w : Json.Written) : Option Expr := do
  let (name, content) ← w.case? room
  let content ← content
  match room with
  | 0 => none
  | room + 1 =>
    match name with
    | "Symbol" => (content.text?).map .symbol
    | "IntLiteral" => do
      let n ← content.between? Int64.minValue.toInt Int64.maxValue.toInt
      some (.integer (Int64.ofInt n))
    | _ =>
      match room with
      | 0 => none
      | room + 1 =>
        match name with
        | "Lambda" => do
          let fields ← content.record? ["params", "body"] false (room + 1)
          let params ← fields.required "params" (Json.Written.texts? room)
          let body ← fields.required "body" (ofWritten? room)
          some (.lambda params body)
        | "If" => do
          let fields ← content.record? ["cond", "then_branch", "else_branch"] false (room + 1)
          let test ← fields.required "cond" (ofWritten? room)
          let yes ← fields.required "then_branch" (ofWritten? room)
          let no ← fields.required "else_branch" (ofWritten? room)
          some (.cond test yes no)
        | "Apply" => do
          let fields ← content.record? ["operator", "args"] false (room + 1)
          let operator ← fields.required "operator" (ofWritten? room)
          let args ← fields.required "args"
            (match room with
              | 0 => fun _ => none
              | below + 1 => Json.Written.list? (fun _ => ofWritten? below) (below + 1))
          some (.apply operator args)
        | _ => none

/-- No expression is read without room. -/
theorem ofWritten?_no_room (w : Json.Written) : ofWritten? 0 w = none := by
  rw [ofWritten?]
  simp only [Option.bind_eq_bind, Option.bind_fun_none]

end Formulary.Expr
