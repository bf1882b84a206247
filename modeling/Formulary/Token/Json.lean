import Formulary.Json.Fields
import Formulary.Token

/-!
# Tokens in JSON
-/

namespace Formulary.Token

open Formulary (Json)

/-- The JSON value of a kind: its name, with what it carries if it carries something. -/
def Kind.toJson : Kind → Json
  | .openParen => .string "OpenParen"
  | .closeParen => .string "CloseParen"
  | .openBracket => .string "OpenBracket"
  | .closeBracket => .string "CloseBracket"
  | .symbol name => .object [("Symbol", .string name)]
  | .integer value => .object [("IntLiteral", .int value.toInt)]
  | .unrecognized text => .object [("Unrecognized", .string text)]

/-- The kind that a value is. -/
def Kind.ofWritten? (room : Nat) (w : Json.Written) : Option Kind := do
  let (name, content) ← w.case? room
  match name, content with
  | "Symbol", some content => (content.text?).map .symbol
  | "Unrecognized", some content => (content.text?).map .unrecognized
  | "IntLiteral", some content => do
    let n ← content.between? Int64.minValue.toInt Int64.maxValue.toInt
    some (.integer (Int64.ofInt n))
  | name, content =>
    if Json.Written.isEmptyCase content then
      match name with
      | "OpenParen" => some .openParen
      | "CloseParen" => some .closeParen
      | "OpenBracket" => some .openBracket
      | "CloseBracket" => some .closeBracket
      | _ => none
    else none

/-- The JSON value of a token. -/
def toJson (t : Token) : Json :=
  .object [("kind", t.kind.toJson), ("line", .int t.line), ("column", .int t.column),
    ("offset", .int t.offset), ("length", .int t.length)]

/-- The token that a value is; its numbers are words of 64 bits. -/
def ofWritten? (room : Nat) (w : Json.Written) : Option Token := do
  let fields ← w.record? ["kind", "line", "column", "offset", "length"] false room
  let kind ← fields.required "kind" (Kind.ofWritten? (room - 1))
  let line ← fields.required "line" (Json.Written.word? 64)
  let column ← fields.required "column" (Json.Written.word? 64)
  let offset ← fields.required "offset" (Json.Written.word? 64)
  let length ← fields.required "length" (Json.Written.word? 64)
  some ⟨kind, line, column, offset, length⟩

end Formulary.Token
