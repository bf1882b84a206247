import Formulary.Toml.Scalar
import Formulary.Toml.Scan

/-!
# Reading TOML texts

A document is a sequence of lines, each empty, a header or an entry; the value of an entry may go
on over several lines inside an array. The lexemes are fed one by one to a state that holds the
document so far, the table that entries go to, and how far the line has come (`Phase`).

* `read?` reads a whole text.
-/

namespace Formulary.Toml

/-- The number of nested arrays and tables between braces, and of parts of a key, at most. -/
def greatestDepth : Nat := 79

/-- Where a value is to be put. -/
inductive Slot
  /-- Under a key of the table whose header stands above. -/
  | entry (path : List String)
  /-- After the items of an open array. -/
  | item (before : Array Toml) (outer : Slot)
  /-- Under a key of an open table between braces, after its entries. -/
  | member (before : Entries) (path : List String) (outer : Slot)

/-- The number of arrays and tables that are open around a slot. -/
def Slot.depth : Slot → Nat
  | entry _ => 0
  | item _ outer => outer.depth + 1
  | member _ _ outer => outer.depth + 1

/-- Whether a value may start on a later line. -/
def Slot.allowsLineEnd : Slot → Bool
  | item _ _ => true
  | _ => false

/-- What a key is read for. -/
inductive KeyUse
  /-- The header of a table. -/
  | header
  /-- The header of an element of an array of tables. -/
  | element
  /-- An entry. -/
  | entry
  /-- A further entry of an open table between braces. -/
  | member (before : Entries) (outer : Slot)

/-- How far reading has come. -/
inductive Phase
  /-- A line is to come. -/
  | line
  /-- A header has been opened; a second bracket just after the first makes it one of an element. -/
  | opened
  /-- A part of a key is to come. -/
  | keyPart (use : KeyUse) (before : List String)
  /-- After a part of a key, a dot or the end of the key is to come. -/
  | afterPart (use : KeyUse) (path : List String)
  /-- Just after the first closing bracket of the header of an element. -/
  | closing (path : List String)
  /-- A value is to come. -/
  | value (slot : Slot)
  /-- An item of an array, or its end, is to come. -/
  | item (before : Array Toml) (outer : Slot)
  /-- After an item, a comma or the end of the array is to come. -/
  | afterItem (items : Array Toml) (outer : Slot)
  /-- After an opening brace, a key or the closing brace is to come. -/
  | braced (outer : Slot)
  /-- After an entry between braces, a comma or the closing brace is to come. -/
  | afterMember (entries : Entries) (outer : Slot)
  /-- After a header or an entry, the end of the line is to come. -/
  | lineDone

/-- The document so far, the header that entries stand under, and how far the line has come. -/
structure State where
  root : Entries
  header : List String
  phase : Phase

namespace State

/-- Puts a complete value where it belongs. -/
def supply (s : State) (v : Toml) : Slot → Option State
  | .entry path => do
    let root ← insertUnder s.header path v s.root
    some { s with root, phase := .lineDone }
  | .item before outer => some { s with phase := .afterItem (before.push v) outer }
  | .member before path outer => do
    let entries ← insert path v before
    some { s with phase := .afterMember entries outer }

/-- Reads a lexeme where a value is to come. -/
def startValue (s : State) (slot : Slot) : Lexeme → Option State
  | .blank => some s
  | .lineEnd => if slot.allowsLineEnd then some s else none
  | .word cs => do s.supply (← scalar? cs) slot
  | .string text _ => s.supply (.string text) slot
  | .openBracket =>
    if slot.depth < greatestDepth then some { s with phase := .item #[] slot } else none
  | .openBrace =>
    if slot.depth < greatestDepth then some { s with phase := .braced slot } else none
  | _ => none

/-- Reads a part of a key, or the dot after one, which is `none`. -/
def keyAtom (use : KeyUse) : Phase → Option String → Option Phase
  | .keyPart _ before, some part =>
    if before.length < greatestDepth then some (.afterPart use (before ++ [part])) else none
  | .afterPart _ path, none => some (.keyPart use path)
  | _, _ => none

/-- Reads a word that stands in a key: bare parts and dots. -/
def keyWord (s : State) (use : KeyUse) (cs : List Char) : Option State := do
  let pieces := cs.splitBy fun c d => c ≠ '.' && d ≠ '.'
  let phase ← pieces.foldlM (fun phase piece =>
    if piece = ['.'] then keyAtom use phase none
    else if piece.all isKeyChar then keyAtom use phase (some (String.ofList piece))
    else none) s.phase
  some { s with phase }

/-- Reads a lexeme that starts or continues a key. -/
def inKey (s : State) (use : KeyUse) : Lexeme → Option State
  | .blank => some s
  | .word cs => s.keyWord use cs
  | .string text false => do
    let phase ← keyAtom use s.phase (some text)
    some { s with phase }
  | _ => none

/-- Reads the end of a key. -/
def endKey (s : State) (path : List String) : KeyUse → Lexeme → Option State
  | .header, .closeBracket => do
    let root ← openTable path s.root
    some ⟨root, path, .lineDone⟩
  | .element, .closeBracket => some { s with phase := .closing path }
  | .entry, .equals => some { s with phase := .value (.entry path) }
  | .member before outer, .equals => some { s with phase := .value (.member before path outer) }
  | _, _ => none

/-- Reads a lexeme where a key starts. -/
def startKey (s : State) (use : KeyUse) (l : Lexeme) : Option State :=
  inKey { s with phase := .keyPart use [] } use l

/-- Reads one lexeme. -/
def step (s : State) (l : Lexeme) : Option State :=
  match s.phase, l with
  | .line, .blank | .line, .lineEnd => some s
  | .line, .openBracket => some { s with phase := .opened }
  | .line, l => s.startKey .entry l
  | .opened, .openBracket => some { s with phase := .keyPart .element [] }
  | .opened, l => s.startKey .header l
  | .keyPart use _, l => s.inKey use l
  | .afterPart use path, l => s.endKey path use l <|> s.inKey use l
  | .closing path, .closeBracket => do
    let root ← openElement path s.root
    some ⟨root, path, .lineDone⟩
  | .value slot, l => s.startValue slot l
  | .item before outer, .closeBracket => s.supply (.array before.toList) outer
  | .item before outer, l =>
    if l = .blank ∨ l = .lineEnd then some s else s.startValue (.item before outer) l
  | .afterItem _ _, .blank | .afterItem _ _, .lineEnd => some s
  | .afterItem items outer, .comma => some { s with phase := .item items outer }
  | .afterItem items outer, .closeBracket => s.supply (.array items.toList) outer
  | .braced outer, .closeBrace => s.supply (.table .braced []) outer
  | .braced _, .blank => some s
  | .braced outer, l => s.startKey (.member [] outer) l
  | .afterMember _ _, .blank => some s
  | .afterMember entries outer, .comma =>
    some { s with phase := .keyPart (.member entries outer) [] }
  | .afterMember entries outer, .closeBrace => s.supply (.table .braced entries) outer
  | .lineDone, .blank => some s
  | .lineDone, .lineEnd => some { s with phase := .line }
  | _, _ => none

end State

/-- The entries of the document that a text is. -/
def read? (text : String) : Option Entries := do
  let lexemes ← scan text
  let s ← lexemes.foldlM State.step ⟨[], [], .line⟩
  match s.phase with
  | .line | .lineDone => some s.root
  | _ => none

end Formulary.Toml
