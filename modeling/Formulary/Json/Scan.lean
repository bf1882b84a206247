import Formulary.Json
import Formulary.Json.Double
import Formulary.Text.Decimal
import Formulary.Text.Hex

/-!
# The lexemes of JSON texts

A JSON text in bytes is cut into punctuation, strings and words, a *word* being a run of the bytes
that numbers and literal names are made of. Bytes are scanned one at a time with what has been
gathered so far (`Gathered`), so a text is scanned in one pass whatever it holds.

A string or number can be well formed and yet denote nothing: half a surrogate pair, bytes that are
not UTF-8, a number too great for a double. Whether that matters depends on what is read of the
value, so such a lexeme carries `none`.
-/

namespace Formulary.Json

/-- A lexeme of a JSON text. A string or a number that denotes nothing is `none`. -/
inductive Lexeme
  | openBrace
  | closeBrace
  | openBracket
  | closeBracket
  | comma
  | colon
  | null
  | bool (value : Bool)
  | number (value : Option Number)
  | string (value : Option String)
  deriving DecidableEq

/-- The byte of a character of ASCII. -/
abbrev ascii (c : Char) : UInt8 := c.toUInt8

/-- The bytes between lexemes. -/
def isSpace (b : UInt8) : Bool :=
  b = ascii ' ' || b = ascii '\t' || b = ascii '\n' || b = ascii '\r'

/-- The bytes of numbers and literal names. -/
def isWordByte (b : UInt8) : Bool :=
  (ascii '0' ≤ b && b ≤ ascii '9') || (ascii 'a' ≤ b && b ≤ ascii 'z') ||
    (ascii 'A' ≤ b && b ≤ ascii 'Z') || b = ascii '+' || b = ascii '-' || b = ascii '.'

/-! ## Numbers -/

/-- The digits at the front of `cs`, and what follows them. -/
def splitDigits (cs : List Char) : List Char × List Char :=
  (cs.takeWhile Char.isDigit, cs.dropWhile Char.isDigit)

/-- The exponent that ends a number, as its sign and digits; `none` within stands for no
    exponent. -/
def exponentPart? : List Char → Option (Option (Bool × List Char))
  | [] => some none
  | c :: cs =>
    if c = 'e' ∨ c = 'E' then
      let (negative, digits) := Text.splitSign cs
      if Text.isNumeral digits then some (some (negative, digits)) else none
    else none

/-- The fraction of a number, its digits, and what follows. -/
def fractionPart? : List Char → Option (Option (List Char) × List Char)
  | '.' :: cs =>
    let (digits, rest) := splitDigits cs
    if digits.isEmpty then none else some (some digits, rest)
  | cs => some (none, cs)

/-- The longest front of the digits that fits an unsigned word after `start`, with how many digits
    it has: the first digit that does not fit ends it. -/
def fitting (start : Nat) : List Char → Nat × Nat
  | [] => (start, 0)
  | d :: ds =>
    let n := 10 * start + (d.toNat - '0'.toNat)
    if n < Nat.pow 2 64 then
      let (m, taken) := fitting n ds
      (m, taken + 1)
    else (start, 0)

/-- The double of a number, if finite. Digits that do not fit the significand are dropped: those
    before the point raise the exponent, those after it, and all that follow, do not count. -/
def double? (negative : Bool) (whole fraction : List Char) (exponent : Option (Bool × List Char)) :
    Option UInt64 :=
  let (significand, taken) := fitting 0 whole
  let dropped := whole.length - taken
  let (significand, decimals) := fitting significand fraction
  let shift : Int := (dropped : Int) - decimals
  match exponent with
  | none => Double.ofParts? negative significand.toUInt64 shift
  | some (negativeExponent, digits) =>
    let e := Text.ofDigits digits
    if e < Nat.pow 2 31 then
      let shift := if negativeExponent then shift - e else shift + e
      Double.ofParts? negative significand.toUInt64 shift
    else if significand = 0 ∨ negativeExponent then Double.ofParts? negative 0 0
    else none

/-- A number, if the word is one; `none` within if it is too great for a double. Minus zero is no
    integer. -/
def numberOfWord? (word : List Char) : Option (Option Number) := do
  let (negative, unsigned) :=
    match word with
    | '-' :: cs => (true, cs)
    | cs => (false, cs)
  let (whole, rest) := splitDigits unsigned
  if whole.isEmpty || (whole.head? = some '0' && whole.length ≠ 1) then none
  let (fraction, rest) ← fractionPart? rest
  let exponent ← exponentPart? rest
  let n := Text.ofDigits whole
  if fraction.isNone && exponent.isNone &&
      (if negative then 0 < n ∧ n ≤ Nat.pow 2 63 else n < Nat.pow 2 64) then
    some (some (.integer (Text.signed negative whole)))
  else
    some ((double? negative whole (fraction.getD []) exponent).map .double)

/-! ## Strings -/

/-- What stands for one or more bytes of a string: a byte itself, or an escaped code unit. -/
inductive Unit16
  | byte (b : UInt8)
  | escaped (unit : Nat)
  deriving DecidableEq

/-- The number of four hexadecimal digits. -/
def fourDigits? (a b c d : UInt8) : Option Nat := do
  let a ← Text.Hex.value? a
  let b ← Text.Hex.value? b
  let c ← Text.Hex.value? c
  let d ← Text.Hex.value? d
  some (((a.toNat * 16 + b.toNat) * 16 + c.toNat) * 16 + d.toNat)

/-- The byte that a short escape stands for. -/
def shortEscape? (b : UInt8) : Option UInt8 :=
  if b = ascii '"' ∨ b = ascii '\\' ∨ b = ascii '/' then some b
  else if b = ascii 'b' then some 8
  else if b = ascii 'f' then some 12
  else if b = ascii 'n' then some 10
  else if b = ascii 'r' then some 13
  else if b = ascii 't' then some 9
  else none

/-- The units of what stands between the quotes, if it is well formed. -/
def units? : Bytes → Option (List Unit16)
  | [] => some []
  | b :: rest =>
    if b < 32 then none
    else if b ≠ ascii '\\' then (units? rest).map (.byte b :: ·)
    else
      match rest with
      | [] => none
      | e :: rest =>
        if e ≠ ascii 'u' then do
          let b ← shortEscape? e
          (units? rest).map (.byte b :: ·)
        else
          match rest with
          | x :: y :: z :: w :: rest => do
            let unit ← fourDigits? x y z w
            (units? rest).map (.escaped unit :: ·)
          | _ => none

/-- The bytes of a character in UTF-8. -/
def charBytes (code : Nat) : Bytes :=
  String.utf8EncodeChar (Char.ofNat code)

/-- The bytes that units stand for; surrogates must come in pairs. -/
def bytesOfUnits? : List Unit16 → Option Bytes
  | [] => some []
  | .byte b :: rest => (bytesOfUnits? rest).map (b :: ·)
  | .escaped unit :: rest =>
    if 0xd800 ≤ unit ∧ unit < 0xdc00 then
      match rest with
      | .escaped low :: rest =>
        if 0xdc00 ≤ low ∧ low < 0xe000 then
          (bytesOfUnits? rest).map
            (charBytes (0x10000 + (unit - 0xd800) * 0x400 + (low - 0xdc00)) ++ ·)
        else none
      | _ => none
    else if 0xdc00 ≤ unit ∧ unit < 0xe000 then none
    else (bytesOfUnits? rest).map (charBytes unit ++ ·)

/-- What stands between two quotes as a lexeme, if it is well formed. -/
def stringLexeme? (inner : Bytes) : Option Lexeme := do
  let units ← units? inner
  some (.string ((bytesOfUnits? units).bind Bytes.text?))

/-! ## Scanning -/

/-- A word as a lexeme. -/
def wordLexeme? (word : Bytes) : Option Lexeme :=
  let cs := word.map fun b => Char.ofNat b.toNat
  if cs = "null".toList then some .null
  else if cs = "true".toList then some (.bool true)
  else if cs = "false".toList then some (.bool false)
  else (numberOfWord? cs).map .number

/-- The lexeme that a byte is by itself. -/
def punctuation? (b : UInt8) : Option Lexeme :=
  if b = ascii '\x7b' then some .openBrace
  else if b = ascii '\x7d' then some .closeBrace
  else if b = ascii '[' then some .openBracket
  else if b = ascii ']' then some .closeBracket
  else if b = ascii ',' then some .comma
  else if b = ascii ':' then some .colon
  else none

/-- What has been gathered of an unfinished lexeme, last byte first. -/
inductive Gathered
  | nothing
  | word (bytes : Bytes)
  | string (bytes : Bytes)
  /-- Inside a string, just after a backslash. -/
  | escape (bytes : Bytes)

/-- Scans the bytes, given what has been gathered before them. -/
def scanFrom : Gathered → Bytes → Option (List Lexeme)
  | .nothing, [] => some []
  | .nothing, b :: rest =>
    if isSpace b then scanFrom .nothing rest
    else if b = ascii '"' then scanFrom (.string []) rest
    else if isWordByte b then scanFrom (.word [b]) rest
    else do
      let l ← punctuation? b
      (scanFrom .nothing rest).map (l :: ·)
  | .word gathered, [] => do
    let l ← wordLexeme? gathered.reverse
    some [l]
  | .word gathered, b :: rest =>
    if isWordByte b then scanFrom (.word (b :: gathered)) rest
    else do
      let l ← wordLexeme? gathered.reverse
      if isSpace b then (scanFrom .nothing rest).map (l :: ·)
      else if b = ascii '"' then (scanFrom (.string []) rest).map (l :: ·)
      else do
        let m ← punctuation? b
        (scanFrom .nothing rest).map (l :: m :: ·)
  | .string _, [] => none
  | .string gathered, b :: rest =>
    if b = ascii '"' then do
      let l ← stringLexeme? gathered.reverse
      (scanFrom .nothing rest).map (l :: ·)
    else if b = ascii '\\' then scanFrom (.escape (b :: gathered)) rest
    else scanFrom (.string (b :: gathered)) rest
  | .escape _, [] => none
  | .escape gathered, b :: rest => scanFrom (.string (b :: gathered)) rest

/-- The lexemes of a text, if it consists of lexemes. -/
def scan (text : Bytes) : Option (List Lexeme) :=
  scanFrom .nothing text

end Formulary.Json
