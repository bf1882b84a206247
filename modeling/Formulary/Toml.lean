import Formulary.Text.Decimal

/-!
# TOML values

The values of TOML texts, the format of settings files. A table remembers how it came to be, for
that decides what may be added to it further down in the text: a table may be opened by one header
only, and one written out as a value is complete.

* `descend` changes the table that a key leads to;
* `insert`, `openTable` and `openElement` are the three ways in which a text adds to a document.
-/

namespace Formulary

/-- How a table came to be. -/
inductive Toml.Origin
  /-- By a header of its own, or as the whole document. -/
  | header
  /-- As an element of an array of tables, by a header of its own. -/
  | element
  /-- On the way to a table with a header. -/
  | implied
  /-- On the way of a dotted key. -/
  | dotted
  /-- As a value between braces. -/
  | braced
  deriving DecidableEq

/-- A TOML value. Numbers with a point or an exponent and times are kept as they are written. -/
inductive Toml
  | string (value : String)
  | integer (value : Int)
  | float (literal : String)
  | boolean (value : Bool)
  | time (literal : String)
  | array (items : List Toml)
  | table (origin : Toml.Origin) (entries : List (String × Toml))

namespace Toml

/-- The entries of a table, each key once. -/
abbrev Entries := List (String × Toml)

namespace Entries

/-- The entries with another value for a key that is there. -/
def replace (key : String) (v : Toml) (entries : Entries) : Entries :=
  entries.map fun e => if e.1 = key then (key, v) else e

end Entries

/-- Whether the way to another table may lead through a table, of a dotted key or of a header. -/
def Origin.isOpen (byDots : Bool) : Origin → Bool
  | .implied | .dotted => true
  | .header | .element => !byDots
  | .braced => false

/-- Changes the table that a path leads to from the entries of another one. What is missing on the
    way is made; of an array of tables the way leads through the last element. -/
def descend (byDots : Bool) (change : Origin → Entries → Option Entries) (origin : Origin)
    (entries : Entries) : List String → Option Entries
  | [] => change origin entries
  | key :: path =>
    match entries.lookup key with
    | none => do
      let origin := if byDots then .dotted else .implied
      let inner ← descend byDots change origin [] path
      some (entries ++ [(key, .table origin inner)])
    | some (.table origin inner) =>
      if origin.isOpen byDots then do
        let inner ← descend byDots change origin inner path
        some (entries.replace key (.table origin inner))
      else none
    | some (.array items) =>
      match items.getLast? with
      | some (.table .element inner) => do
        let inner ← descend byDots change .element inner path
        some (entries.replace key (.array (items.dropLast ++ [.table .element inner])))
      | _ => none
    | some _ => none

/-- The path of a key without its last part, and that part. -/
def splitPath (path : List String) : List String × String :=
  (path.dropLast, path.getLastD "")

/-- Adds a value under a key, which may be dotted. A dotted key may add to no tables but those that
    such keys have made. -/
def insert (path : List String) (v : Toml) (entries : Entries) : Option Entries :=
  let (way, key) := splitPath path
  let add (origin : Origin) (entries : Entries) : Option Entries :=
    if !way.isEmpty && origin ≠ .dotted then none
    else if (entries.lookup key).isSome then none
    else some (entries ++ [(key, v)])
  descend true add .header entries way

/-- Opens the table of a header. -/
def openTable (path : List String) (entries : Entries) : Option Entries :=
  let (way, key) := splitPath path
  let add (_ : Origin) (entries : Entries) : Option Entries :=
    match entries.lookup key with
    | none => some (entries ++ [(key, .table .header [])])
    | some (.table .implied inner) => some (entries.replace key (.table .header inner))
    | some _ => none
  descend false add .header entries way

/-- Opens a new element of the array of tables of a header. -/
def openElement (path : List String) (entries : Entries) : Option Entries :=
  let (way, key) := splitPath path
  let fresh : Toml := .table .element []
  let add (_ : Origin) (entries : Entries) : Option Entries :=
    match entries.lookup key with
    | none => some (entries ++ [(key, .array [fresh])])
    | some (.array items) =>
      match items.getLast? with
      | some (.table .element _) => some (entries.replace key (.array (items ++ [fresh])))
      | _ => none
    | some _ => none
  descend false add .header entries way

/-- Adds a value under a key to the table of the header above it. -/
def insertUnder (header path : List String) (v : Toml) (entries : Entries) : Option Entries :=
  descend false (fun _ => insert path v) .header entries header

end Toml

end Formulary
