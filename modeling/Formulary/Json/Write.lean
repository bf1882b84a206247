import Formulary.Json
import Formulary.Json.Double
import Formulary.Text.Quoted

/-!
# Writing JSON

`compact` writes a value on one line without spaces, `pretty` over several lines, each level two
spaces further in. Only what JSON forbids inside a string is escaped there.

* `compact` never writes a line feed, so a value is one line of a stream of lines.
-/

namespace Formulary.Json

/-- How a character is written in a string. -/
def escapeChar (c : Char) : List Char :=
  if c = '"' then ['\\', '"']
  else if c = '\\' then ['\\', '\\']
  else if c = '\x08' then ['\\', 'b']
  else if c = '\x0c' then ['\\', 'f']
  else if c = '\n' then ['\\', 'n']
  else if c = '\r' then ['\\', 'r']
  else if c = '\t' then ['\\', 't']
  else if c.toNat < 32 then
    ['\\', 'u', '0', '0', Nat.digitChar (c.toNat / 16), Nat.digitChar (c.toNat % 16)]
  else [c]

/-- A string between quotes. -/
def writeString (s : String) : String :=
  "\"" ++ String.ofList (s.toList.flatMap escapeChar) ++ "\""

/-- A number in decimal. -/
def Number.write : Number → String
  | .integer n => toString n
  | .double bits => Double.write bits

mutual

/-- A value on one line. -/
def compact : Json → String
  | null => "null"
  | bool b => if b then "true" else "false"
  | number n => n.write
  | string s => writeString s
  | array items => "[" ++ compactItems items ++ "]"
  | object members => "\x7b" ++ compactMembers members ++ "\x7d"

/-- Items with a comma between neighbours. -/
def compactItems : List Json → String
  | [] => ""
  | [v] => v.compact
  | v :: vs => v.compact ++ "," ++ compactItems vs

/-- Members with a comma between neighbours. -/
def compactMembers : List (String × Json) → String
  | [] => ""
  | [(key, v)] => writeString key ++ ":" ++ v.compact
  | (key, v) :: ms => writeString key ++ ":" ++ v.compact ++ "," ++ compactMembers ms

end

/-- The bytes of a value written on one line. -/
def bytes (v : Json) : Bytes :=
  Bytes.ofText v.compact

/-- A new line that starts `level` levels in. -/
def newLine (level : Nat) : String :=
  "\n" ++ String.ofList (List.replicate (2 * level) ' ')

mutual

/-- A value over several lines, from a line that starts `level` levels in. -/
def prettyAt (level : Nat) : Json → String
  | array [] => "[]"
  | array items => "[" ++ prettyItems (level + 1) items ++ newLine level ++ "]"
  | object [] => "\x7b\x7d"
  | object members => "\x7b" ++ prettyMembers (level + 1) members ++ newLine level ++ "\x7d"
  | null => "null"
  | bool b => if b then "true" else "false"
  | number n => n.write
  | string s => writeString s

/-- Items, each on a line of its own. -/
def prettyItems (level : Nat) : List Json → String
  | [] => ""
  | [v] => newLine level ++ v.prettyAt level
  | v :: vs => newLine level ++ v.prettyAt level ++ "," ++ prettyItems level vs

/-- Members, each on a line of its own. -/
def prettyMembers (level : Nat) : List (String × Json) → String
  | [] => ""
  | [(key, v)] => newLine level ++ writeString key ++ ": " ++ v.prettyAt level
  | (key, v) :: ms =>
    newLine level ++ writeString key ++ ": " ++ v.prettyAt level ++ "," ++ prettyMembers level ms

end

/-- A value over several lines. -/
def pretty (v : Json) : String :=
  v.prettyAt 0

end Formulary.Json
