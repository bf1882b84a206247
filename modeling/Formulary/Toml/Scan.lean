import Formulary.Text.Hex
import Formulary.Toml

/-!
# The lexemes of TOML texts

A text is cut into punctuation, blanks, ends of lines, strings and words, a *word* being a run of
the characters that bare keys, numbers and times are made of. Comments leave nothing behind.
Characters are scanned one at a time with what has been gathered so far (`Gathered`); what stands
between the quotes of a string is gathered as it is and made sense of at its end (`contents?`).
-/

namespace Formulary.Toml

/-- A lexeme of a TOML text. A blank is one character. -/
inductive Lexeme
  | openBracket
  | closeBracket
  | openBrace
  | closeBrace
  | equals
  | comma
  | blank
  | lineEnd
  | word (cs : List Char)
  /-- A string, which may be one that can hold several lines. -/
  | string (value : String) (multiline : Bool)
  deriving DecidableEq

/-- The characters between words on a line. -/
def isBlank (c : Char) : Bool := c = ' ' || c = '\t'

/-- The characters of bare keys. -/
def isKeyChar (c : Char) : Bool := c.isAlphanum || c = '_' || c = '-'

/-- The characters of words. -/
def isWordChar (c : Char) : Bool := isKeyChar c || c = '.' || c = '+' || c = ':'

/-- The characters that may stand in a comment or a string: all but control characters. -/
def isPlain (c : Char) : Bool := c = '\t' || (' ' ≤ c && c ≠ '\x7f')

/-! ## Strings -/

/-- The text with each line ended by a line feed alone. -/
def lineFeeds? : List Char → Option (List Char)
  | [] => some []
  | '\r' :: '\n' :: cs => (lineFeeds? cs).map ('\n' :: ·)
  | '\r' :: _ => none
  | c :: cs => (lineFeeds? cs).map (c :: ·)

/-- The character of a code written in hexadecimal. -/
def charOfDigits? (digits : List Char) : Option Char := do
  let values ← digits.mapM fun c => if c.isAlphanum then Text.Hex.value? c.toUInt8 else none
  let code := values.foldl (fun n v => 16 * n + v.toNat) 0
  if code.isValidChar then some (Char.ofNat code) else none

/-- The character that a short escape stands for. -/
def shortEscape? : Char → Option Char
  | 'b' => some '\x08'
  | 't' => some '\t'
  | 'n' => some '\n'
  | 'f' => some '\x0c'
  | 'r' => some '\r'
  | '"' => some '"'
  | '\\' => some '\\'
  | _ => none

/-- A string without escapes. -/
def literal? (multiline : Bool) (cs : List Char) : Option (List Char) :=
  if cs.all fun c => isPlain c || (multiline && c = '\n') then some cs else none

theorem length_drop_le (n : Nat) (cs : List Char) : (cs.drop n).length ≤ cs.length := by
  simp

theorem length_dropWhile_le (p : Char → Bool) (cs : List Char) :
    (cs.dropWhile p).length ≤ cs.length :=
  (List.dropWhile_sublist p).length_le

/-- A string with its escapes undone. A backslash at the end of a line, blanks after it aside,
    takes away all white space that follows. -/
def unescaped? (multiline : Bool) : List Char → Option (List Char)
  | [] => some []
  | '\\' :: 'u' :: cs => do
    let c ← if cs.length < 4 then none else charOfDigits? (cs.take 4)
    (unescaped? multiline (cs.drop 4)).map (c :: ·)
  | '\\' :: 'U' :: cs => do
    let c ← if cs.length < 8 then none else charOfDigits? (cs.take 8)
    (unescaped? multiline (cs.drop 8)).map (c :: ·)
  | ['\\'] => none
  | '\\' :: e :: cs =>
    if multiline && ((e :: cs).dropWhile isBlank).head? = some '\n' then
      unescaped? multiline ((e :: cs).dropWhile fun c => isBlank c || c = '\n')
    else do
      let c ← shortEscape? e
      (unescaped? multiline cs).map (c :: ·)
  | c :: cs =>
    if isPlain c || (multiline && c = '\n') then (unescaped? multiline cs).map (c :: ·) else none
termination_by cs => cs.length
decreasing_by
  · have := length_drop_le 4 cs; simp only [List.length_cons]; omega
  · have := length_drop_le 8 cs; simp only [List.length_cons]; omega
  · have := length_dropWhile_le (fun c => isBlank c || c = '\n') (e :: cs)
    simp only [List.length_cons] at *; omega
  · simp only [List.length_cons]; omega
  · simp only [List.length_cons]; omega

/-- What a string holds, given what stands between its quotes. The end of a line just after the
    opening quotes does not count. -/
def contents? (quote : Char) (multiline : Bool) (raw : List Char) : Option String := do
  let cs ← if multiline then lineFeeds? raw else some raw
  let cs :=
    match cs with
    | '\n' :: rest => if multiline then rest else cs
    | _ => cs
  let held ← if quote = '"' then unescaped? multiline cs else literal? multiline cs
  some (String.ofList held)

/-! ## Scanning -/

/-- What has been gathered of an unfinished lexeme, last character first. -/
inductive Gathered
  | nothing
  /-- A carriage return, which a line feed must follow. -/
  | carriageReturn
  | comment
  | word (cs : List Char)
  /-- A word that is a date as far as it goes, and a space, after which a time of day may follow. -/
  | date (cs : List Char)
  /-- One or two quotes that open a string or are an empty one. -/
  | opening (quote : Char) (second : Bool)
  | string (quote : Char) (multiline : Bool) (raw : List Char)
  /-- Inside a string, just after a backslash. -/
  | escape (multiline : Bool) (raw : List Char)
  /-- Inside a string of several lines, after some quotes in a row. -/
  | closing (quote : Char) (raw : List Char) (count : Nat)

/-- The lexeme that a character is by itself. -/
def punctuation? : Char → Option Lexeme
  | '[' => some .openBracket
  | ']' => some .closeBracket
  | '\x7b' => some .openBrace
  | '\x7d' => some .closeBrace
  | '=' => some .equals
  | ',' => some .comma
  | _ => none

/-- Lexemes that are complete, and what has been gathered after them. -/
abbrev Scanned := List Lexeme × Gathered

/-- Scans a character when nothing has been gathered. -/
def start (c : Char) : Option Scanned :=
  if isBlank c then some ([.blank], .nothing)
  else if c = '\n' then some ([.lineEnd], .nothing)
  else if c = '\r' then some ([], .carriageReturn)
  else if c = '#' then some ([], .comment)
  else if c = '"' ∨ c = '\'' then some ([], .opening c false)
  else if isWordChar c then some ([], .word [c])
  else (punctuation? c).map fun l => ([l], .nothing)

/-- Scans a character after lexemes that are complete. -/
def startAfter (ls : List Lexeme) (c : Char) : Option Scanned :=
  (start c).map fun (ms, g) => (ls ++ ms, g)

/-- A string that is complete. -/
def stringLexeme? (quote : Char) (multiline : Bool) (raw : List Char) : Option Lexeme :=
  (contents? quote multiline raw.reverse).map (.string · multiline)

/-- Whether a word has the shape of a date. -/
def isDateShape (cs : List Char) : Bool :=
  cs.length = 10 && cs.all fun c => c.isDigit || c = '-'

/-- Scans a character after what has been gathered. -/
def Gathered.step : Gathered → Char → Option Scanned
  | nothing, c => start c
  | carriageReturn, c => if c = '\n' then some ([.lineEnd], nothing) else none
  | comment, c =>
    if c = '\n' ∨ c = '\r' then start c else if isPlain c then some ([], comment) else none
  | word cs, c =>
    if isWordChar c then some ([], word (c :: cs))
    else if c = ' ' && isDateShape cs then some ([], date (c :: cs))
    else startAfter [.word cs.reverse] c
  | date cs, c =>
    if c.isDigit then some ([], word (c :: cs)) else startAfter [.word cs.tail.reverse, .blank] c
  | opening quote false, c =>
    if c = quote then some ([], opening quote true)
    else if c = '\\' && quote = '"' then some ([], escape false [c])
    else some ([], string quote false [c])
  | opening quote true, c =>
    if c = quote then some ([], string quote true []) else startAfter [.string "" false] c
  | string quote multiline raw, c =>
    if c = quote then
      if multiline then some ([], closing quote raw 1)
      else (stringLexeme? quote false raw).map fun l => ([l], nothing)
    else if c = '\\' && quote = '"' then some ([], escape multiline (c :: raw))
    else some ([], string quote multiline (c :: raw))
  | escape multiline raw, c => some ([], string '"' multiline (c :: raw))
  | closing quote raw count, c =>
    if c = quote ∧ count < 5 then some ([], closing quote raw (count + 1))
    else if 3 ≤ count then do
      let l ← stringLexeme? quote true (List.replicate (count - 3) quote ++ raw)
      startAfter [l] c
    else
      let raw := List.replicate count quote ++ raw
      if c = '\\' && quote = '"' then some ([], escape true (c :: raw))
      else some ([], string quote true (c :: raw))

/-- The lexemes that are complete when the text ends. -/
def Gathered.finish : Gathered → Option (List Lexeme)
  | nothing | comment => some []
  | word cs => some [.word cs.reverse]
  | date cs => some [.word cs.tail.reverse, .blank]
  | opening _ true => some [.string "" false]
  | closing quote raw count =>
    if 3 ≤ count then
      (stringLexeme? quote true (List.replicate (count - 3) quote ++ raw)).map ([·])
    else none
  | _ => none

/-- Scans the characters after what has been gathered. -/
def scanFrom (gathered : Gathered) : List Char → Option (List Lexeme)
  | [] => gathered.finish
  | c :: cs => do
    let (ls, gathered) ← gathered.step c
    (scanFrom gathered cs).map (ls ++ ·)

/-- The lexemes of a text, if it consists of lexemes. A byte order mark may stand in front. -/
def scan (text : String) : Option (List Lexeme) :=
  match text.toList with
  | '\ufeff' :: cs => scanFrom .nothing cs
  | cs => scanFrom .nothing cs

end Formulary.Toml
