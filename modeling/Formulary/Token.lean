import Formulary.Text.Alphanumeric
import Formulary.Text.Blank
import Formulary.Text.Decimal
import Formulary.Text.Length

/-!
# Tokens

A source text is cut into *pieces*: each blank and each delimiter is a piece of its own, and so is
every maximal run of other characters. A piece that is no blank is a token, located by the place
where it starts. Reading tokens never fails: a run that is neither a number nor a symbol is an
unrecognized token, which the parser reports (`Formulary.Expr.Parse`).

* `pieces` loses nothing: the pieces put together are the source;
* `Kind.ofRun` tells numbers, symbols and unrecognized runs apart;
* `isSymbol` is the same test on a name alone.
-/

namespace Formulary

/-- A place in a source text. Lines and columns count characters from one, offsets bytes from
    zero. -/
structure Place where
  line : Nat
  column : Nat
  offset : Nat
  deriving DecidableEq, Repr

namespace Place

/-- Where a text starts. -/
def start : Place := ⟨1, 1, 0⟩

/-- The place after the character `c`. -/
def next (p : Place) (c : Char) : Place :=
  if c = '\n' then ⟨p.line + 1, 1, p.offset + c.utf8Size⟩
  else ⟨p.line, p.column + 1, p.offset + c.utf8Size⟩

/-- The place after the characters `cs`. -/
def past (p : Place) (cs : List Char) : Place :=
  cs.foldl next p

@[simp] theorem past_nil (p : Place) : p.past [] = p := rfl

@[simp] theorem past_cons (p : Place) (c : Char) (cs : List Char) :
    p.past (c :: cs) = (p.next c).past cs := rfl

@[simp] theorem past_append (p : Place) (cs ds : List Char) :
    p.past (cs ++ ds) = (p.past cs).past ds := by
  simp [past]

end Place

/-- What a token is. -/
inductive Token.Kind
  | openParen
  | closeParen
  | openBracket
  | closeBracket
  | symbol (name : String)
  | integer (value : Int64)
  | unrecognized (text : String)
  deriving DecidableEq

/-- A token with the place where it starts and its length in bytes. -/
structure Token where
  kind : Token.Kind
  line : Nat
  column : Nat
  offset : Nat
  length : Nat
  deriving DecidableEq

namespace Token

/-- The characters that are tokens by themselves. -/
def isDelimiter (c : Char) : Bool :=
  c = '(' || c = ')' || c = '[' || c = ']'

/-- The characters that join their neighbours in a run. -/
def isRunChar (c : Char) : Bool :=
  !Text.isBlank c && !isDelimiter c

/-- The punctuation allowed in a symbol. -/
def symbolPunctuation : List Char :=
  "_-+*/<>=?!'.%&:".toList

/-- The characters allowed in a symbol. -/
def isSymbolChar (c : Char) : Bool :=
  Text.isAlphanumeric c || symbolPunctuation.contains c

namespace Kind

/-- A run of characters as a token. Digits after an optional sign are a number, or unrecognized if
    it does not fit; any other run of symbol characters that starts with no digit is a symbol. -/
def ofRun (run : List Char) : Kind :=
  let (negative, digits) := Text.splitSign run
  if Text.isNumeral digits then
    match Text.int64? (Text.signed negative digits) with
    | some n => .integer n
    | none => .unrecognized (String.ofList run)
  else if !(run.head?.any Char.isDigit) && run.all isSymbolChar then .symbol (String.ofList run)
  else .unrecognized (String.ofList run)

/-- A piece of a source as a token: a blank is none. -/
def ofPiece? : List Char → Option Kind
  | ['('] => some .openParen
  | [')'] => some .closeParen
  | ['['] => some .openBracket
  | [']'] => some .closeBracket
  | piece => if piece.all isRunChar then some (ofRun piece) else none

/-- How a token is named in a message. -/
def describe : Kind → String
  | .openParen => "'('"
  | .closeParen => "')'"
  | .openBracket => "'['"
  | .closeBracket => "']'"
  | .symbol name => "symbol `" ++ name ++ "`"
  | .integer value => "integer " ++ toString value.toInt
  | .unrecognized text => "unrecognized `" ++ text ++ "`"

end Kind

/-- The pieces of a source: maximal runs of run characters, all other characters alone. -/
def pieces (cs : List Char) : List (List Char) :=
  cs.splitBy fun c d => isRunChar c && isRunChar d

/-- Goes over the pieces that follow one another from the place `p` on. Gives the tokens among them,
    each with the place just past it, and the place where this ends. -/
def located (p : Place) : List (List Char) → List (Token × Place) × Place
  | [] => ([], p)
  | piece :: rest =>
    let after := p.past piece
    let (ts, last) := located after rest
    match Kind.ofPiece? piece with
    | some kind =>
      ((⟨kind, p.line, p.column, p.offset, Text.byteLength piece⟩, after) :: ts, last)
    | none => (ts, last)

/-- The tokens of a source, each with the place just past it. -/
def scan (source : String) : List (Token × Place) :=
  (located .start (pieces source.toList)).1

/-- The tokens of a source. -/
def tokenize (source : String) : List Token :=
  (scan source).map Prod.fst

/-- The place in which the scan of a source ends. -/
def endOf (source : String) : Place :=
  (located .start (pieces source.toList)).2

/-- The number of columns that a token takes. -/
def width (t : Token) : Nat :=
  match t.kind with
  | .symbol text | .unrecognized text => text.length
  | _ => t.length

/-- Whether `name`, standing alone, is a symbol. -/
def isSymbol (name : String) : Bool :=
  !name.isEmpty && Kind.ofRun name.toList = .symbol name

end Token

end Formulary
