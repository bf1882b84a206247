import Formulary.Json.Scan

/-!
# Reading JSON texts

A text is read to a `Written` value: a JSON value in which a string or number that denotes nothing
is kept as `none`. The lexemes are fed one by one to a state that holds the arrays and objects still
open, innermost first.

* `read?` reads a whole text;
* `Written.value?` is the JSON value that was written, if everything in it denotes something and it
  nests no deeper than allowed.
-/

namespace Formulary.Json

/-- A value as it stands in a text. -/
inductive Written
  | null
  | bool (value : Bool)
  | number (value : Option Number)
  | string (value : Option String)
  | array (items : List Written)
  | object (members : List (Option String × Written))

/-- An open array or object that waits for a value: what stands before it, and its key. -/
inductive Around
  | items (before : Array Written)
  | member (before : Array (Option String × Written)) (key : Option String)

/-- How far reading has come. -/
inductive Progress
  /-- A value is to come. -/
  | value (around : List Around)
  /-- An array was opened: a value or its end is to come. -/
  | arrayStart (around : List Around)
  /-- An object was opened: a key or its end is to come. -/
  | objectStart (around : List Around)
  /-- After a comma in an object, a key is to come. -/
  | nextKey (before : Array (Option String × Written)) (around : List Around)
  /-- A colon is to come. -/
  | colon (before : Array (Option String × Written)) (key : Option String) (around : List Around)
  /-- After an item, a comma or the end of the array is to come. -/
  | afterItem (items : Array Written) (around : List Around)
  /-- After a member, a comma or the end of the object is to come. -/
  | afterMember (members : Array (Option String × Written)) (around : List Around)
  /-- The value is complete. -/
  | complete (w : Written)

namespace Progress

/-- Puts a value where the innermost open array or object waits for one. -/
def supply (w : Written) : List Around → Progress
  | [] => .complete w
  | .items before :: around => .afterItem (before.push w) around
  | .member before key :: around => .afterMember (before.push (key, w)) around

/-- Reads a lexeme where a value is to come. -/
def startValue (around : List Around) : Lexeme → Option Progress
  | .null => some (supply .null around)
  | .bool b => some (supply (.bool b) around)
  | .number n => some (supply (.number n) around)
  | .string s => some (supply (.string s) around)
  | .openBracket => some (.arrayStart around)
  | .openBrace => some (.objectStart around)
  | _ => none

/-- Reads one lexeme. -/
def step : Progress → Lexeme → Option Progress
  | .value around, l => startValue around l
  | .arrayStart around, .closeBracket => some (supply (.array []) around)
  | .arrayStart around, l => startValue (.items #[] :: around) l
  | .objectStart around, .closeBrace => some (supply (.object []) around)
  | .objectStart around, .string key => some (.colon #[] key around)
  | .nextKey before around, .string key => some (.colon before key around)
  | .colon before key around, .colon => some (.value (.member before key :: around))
  | .afterItem items around, .comma => some (.value (.items items :: around))
  | .afterItem items around, .closeBracket => some (supply (.array items.toList) around)
  | .afterMember members around, .comma => some (.nextKey members around)
  | .afterMember members around, .closeBrace => some (supply (.object members.toList) around)
  | _, _ => none

end Progress

/-- The value that a text is, if it is one value with nothing but spaces around it. -/
def read? (text : Bytes) : Option Written := do
  let lexemes ← scan text
  match ← lexemes.foldlM Progress.step (.value []) with
  | .complete w => some w
  | _ => none

/-- The number of nested arrays and objects that are read at most. -/
def greatestHeight : Nat := 127

namespace Written

mutual

/-- The value that was written, if all of it denotes something and arrays and objects nest at most
    `room` deep. -/
def value? (room : Nat) : Written → Option Json
  | null => some .null
  | bool b => some (.bool b)
  | number n => n.map .number
  | string s => s.map .string
  | array items =>
    if room = 0 then none else (items? (room - 1) items).map .array
  | object members =>
    if room = 0 then none else (members? (room - 1) members).map .object

/-- The values of items. -/
def items? (room : Nat) : List Written → Option (List Json)
  | [] => some []
  | w :: ws => do
    let v ← w.value? room
    let vs ← items? room ws
    some (v :: vs)

/-- The values of members. -/
def members? (room : Nat) : List (Option String × Written) → Option (List (String × Json))
  | [] => some []
  | (key, w) :: ms => do
    let key ← key
    let v ← w.value? room
    let vs ← members? room ms
    some ((key, v) :: vs)

end

/-- A free value, kept with the members of its objects sorted by key. -/
def free? (room : Nat) (w : Written) : Option Json :=
  (w.value? room).map sorted

end Written

mutual

/-- A value as it would stand in a text. -/
def asWritten : Json → Written
  | null => .null
  | bool b => .bool b
  | number n => .number (some n)
  | string s => .string (some s)
  | array items => .array (itemsAsWritten items)
  | object members => .object (membersAsWritten members)

/-- Items as they would stand in a text. -/
def itemsAsWritten : List Json → List Written
  | [] => []
  | v :: vs => v.asWritten :: itemsAsWritten vs

/-- Members as they would stand in a text. -/
def membersAsWritten : List (String × Json) → List (Option String × Written)
  | [] => []
  | (key, v) :: ms => (some key, v.asWritten) :: membersAsWritten ms

end

end Formulary.Json
