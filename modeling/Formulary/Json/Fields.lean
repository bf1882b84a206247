import Formulary.Json.Read

/-!
# Values of known shape

How a written value is read as a value of a type: a text, a number within bounds, a list, or a
record. A record is written as an object, or as an array of its fields in order. What is not known
of an object is skipped, whatever it is; a known field may stand once only.

Every array or object that is read costs one of the levels that are left (`room`); what is skipped
costs none.
-/

namespace Formulary.Json

namespace Written

/-- The text that a value is. -/
def text? : Written → Option String
  | string s => s
  | _ => none

/-- The truth value that a value is. -/
def bool? : Written → Option Bool
  | bool b => some b
  | _ => none

/-- The integer that a value is, if it lies between the bounds. -/
def between? (low high : Int) : Written → Option Int
  | number (some (.integer n)) => if low ≤ n ∧ n ≤ high then some n else none
  | _ => none

/-- The natural number below `2 ^ bits` that a value is. -/
def word? (bits : Nat) (w : Written) : Option Nat :=
  (w.between? 0 (Nat.pow 2 bits - 1)).map Int.toNat

/-- The items of an array. -/
def items (room : Nat) : Written → Option (List Written)
  | array items => if room = 0 then none else some items
  | _ => none

/-- The list that a value is, each of its items read by `read`. -/
def list? {α : Type} (read : Nat → Written → Option α) (room : Nat) (w : Written) :
    Option (List α) := do
  let items ← w.items room
  items.mapM (read (room - 1))

/-- The list of texts that a value is. -/
def texts? (room : Nat) (w : Written) : Option (List String) :=
  w.list? (fun _ => text?) room

end Written

/-- The fields that were found of a record, by name. -/
abbrev Fields := List (String × Written)

namespace Fields

/-- The value of a field that must be there. -/
def required {α : Type} (fields : Fields) (name : String) (read : Written → Option α) : Option α :=
  (fields.lookup name).bind read

/-- The value of a field that may be absent, and is then `absent`. -/
def orElse {α : Type} (fields : Fields) (name : String) (absent : α) (read : Written → Option α) :
    Option α :=
  match fields.lookup name with
  | none => some absent
  | some w => read w

/-- The value of a field that may be absent or null. -/
def optional {α : Type} (fields : Fields) (name : String) (read : Written → Option α) :
    Option (Option α) :=
  match fields.lookup name with
  | none | some .null => some none
  | some w => (read w).map some

end Fields

/-- The known fields among members, after those found before. A key must denote a text. -/
def knownFields (names : List String) (strict : Bool) (found : Fields) :
    List (Option String × Written) → Option Fields
  | [] => some found
  | (none, _) :: _ => none
  | (some key, w) :: rest =>
    if key ∈ names then
      if (found.lookup key).isSome then none else knownFields names strict ((key, w) :: found) rest
    else if strict then none
    else knownFields names strict found rest

namespace Written

/-- The fields of a record with the given names in order; if `strict`, no others may stand in it. -/
def record? (names : List String) (strict : Bool) (room : Nat) : Written → Option Fields
  | object members => if room = 0 then none else knownFields names strict [] members
  | array items =>
    if room = 0 ∨ names.length < items.length then none else some (names.zip items)
  | _ => none

/-- The name and the content of a value of a type with named cases: a name alone, or an object with
    the name as its only key. -/
def case? (room : Nat) : Written → Option (String × Option Written)
  | string (some name) => some (name, none)
  | object [(some name, w)] => if room = 0 then none else some (name, some w)
  | _ => none

/-- Whether the content of a case says nothing: there is none, or it is null. -/
def isEmptyCase : Option Written → Bool
  | none | some .null => true
  | _ => false

end Written

end Formulary.Json
