import SearchMapper.Floating.Decimal
import SearchMapper.Json.Basic
import SearchMapper.Text.Numeral

/-!
# JSON tokens

Cutting JSON text into tokens, one character at a time. The state between two characters says
what the current token is so far; `Json.tokens?` refuses the text if some character has no
place in it. Surrogate escapes count in pairs only, and a number must be finite.
-/

namespace SearchMapper.Json

/-- A piece of JSON text. Strings, numbers and literals carry their value. -/
inductive Token where
  | openArray
  | closeArray
  | openObject
  | closeObject
  | comma
  | colon
  | scalar (value : Json)

/-- What has been read of the current token. Collected characters are in reverse. -/
inductive Lexing where
  /-- No token has begun. -/
  | between
  /-- A number or a literal. -/
  | word (chars : List Char)
  /-- A string. -/
  | text (chars : List Char)
  /-- A string, after a backslash. -/
  | escape (chars : List Char)
  /-- A string, inside an escape of four hexadecimal digits, the second one of a surrogate
  pair if there is a `high` half. -/
  | code (chars : List Char) (high : Option Nat) (digits value : Nat)
  /-- A string, after the first half of a surrogate pair. -/
  | pair (chars : List Char) (high : Nat)
  /-- A string, after the first half of a surrogate pair and a backslash. -/
  | pairEscape (chars : List Char) (high : Nat)

/-- The value of a hexadecimal digit of either case. -/
def hexValue? (c : Char) : Option Nat :=
  if c.isDigit then some (c.toNat - '0'.toNat)
  else if 'a' ≤ c && c ≤ 'f' then some (c.toNat - 'a'.toNat + 10)
  else if 'A' ≤ c && c ≤ 'F' then some (c.toNat - 'A'.toNat + 10)
  else none

/-! ## Numbers -/

/-- A double, refused if it is infinite. -/
def finite? (x : Double) : Option Json :=
  if h : x.isFinite then some (.number (.double x h)) else none

/-- The digits of an exponent, after its letter. -/
def exponent? (chars : List Char) : Option Int :=
  Text.signed? chars

/-- The fraction of a number: digits after a point, if there is a point. -/
def fraction? : List Char → Option (List Char)
  | [] => some []
  | '.' :: digits => if !digits.isEmpty && digits.all Char.isDigit then some digits else none
  | _ => none

/-- The whole part of a number: digits, of which the first is zero only if it is alone. -/
def isWhole : List Char → Bool
  | [] => false
  | ['0'] => true
  | '0' :: _ => false
  | digits => digits.all Char.isDigit

/-- The number of `start` and the digits after it, as long as it fits into 64 bits, and how
many digits are left over. -/
def takeDigits (start : Nat) : List Char → Nat × Nat
  | [] => (start, 0)
  | c :: rest =>
    let next := 10 * start + Text.digitValue c
    if next < UInt64.size then takeDigits next rest else (start, rest.length + 1)

/-- A number without its sign. An integer that fits into 64 bits stays exact, except that
negative zero is a double. Of any other number the digits beyond 64 bits do not count. -/
def magnitude? (negative : Bool) (chars : List Char) : Option Json := do
  let isMark (c : Char) : Bool := c == 'e' || c == 'E'
  let mantissa := chars.takeWhile (!isMark ·)
  let mark := chars.dropWhile (!isMark ·)
  let whole := mantissa.takeWhile Char.isDigit
  let fraction ← fraction? (mantissa.dropWhile Char.isDigit)
  guard (isWhole whole)
  let exponent ← if mark.isEmpty then some 0 else exponent? (mark.drop 1)
  -- whole digits left over move the point to the right, digits of the fraction to the left
  let (head, above) := takeDigits 0 whole
  let (digits, below) := takeDigits head fraction
  let places : Int := above - (fraction.length - below : Nat)
  let rounded := finite? (.ofDigits negative digits (exponent + places))
  if fraction.isEmpty && mark.isEmpty && above == 0 && !(negative && digits == 0) then
    (int? (if negative then -(digits : Int) else digits)).or rounded
  else rounded

/-- The value of a number or a literal. -/
def word? (chars : List Char) : Option Json :=
  if chars = "true".toList then some (.bool true)
  else if chars = "false".toList then some (.bool false)
  else if chars = "null".toList then some .null
  else
    match chars with
    | '-' :: digits => magnitude? true digits
    | digits => magnitude? false digits

/-! ## The state between two characters -/

/-- The characters that may stand between tokens. -/
def isSpace (c : Char) : Bool :=
  c == ' ' || c == '\t' || c == '\n' || c == '\r'

/-- The token that is a single character. -/
def punctuation? : Char → Option Token
  | '[' => some .openArray
  | ']' => some .closeArray
  | '\x7b' => some .openObject
  | '\x7d' => some .closeObject
  | ',' => some .comma
  | ':' => some .colon
  | _ => none

/-- The character for an escape of one letter. -/
def escaped? : Char → Option Char
  | '"' => some '"'
  | '\\' => some '\\'
  | '/' => some '/'
  | 'b' => some '\x08'
  | 'f' => some '\x0c'
  | 'n' => some '\n'
  | 'r' => some '\r'
  | 't' => some '\t'
  | _ => none

/-- The state after an escape of four digits is complete. -/
def afterCode (chars : List Char) (high : Option Nat) (value : Nat) : Option Lexing :=
  match high with
  | some h =>
    if 0xDC00 ≤ value && value ≤ 0xDFFF then
      some (.text (Char.ofNat (0x10000 + (h - 0xD800) * 0x400 + (value - 0xDC00)) :: chars))
    else none
  | none =>
    if 0xD800 ≤ value && value ≤ 0xDBFF then some (.pair chars value)
    else if 0xDC00 ≤ value && value ≤ 0xDFFF then none
    else some (.text (Char.ofNat value :: chars))

/-- The state and the tokens, latest first, after a character that belongs to no word or
string begun before it. -/
def startToken (tokens : List Token) (c : Char) : Option (Lexing × List Token) :=
  if isSpace c then some (.between, tokens)
  else if c = '"' then some (.text [], tokens)
  else
    match punctuation? c with
    | some token => some (.between, token :: tokens)
    | none => some (.word [c], tokens)

/-- The character ends a word before it. -/
def endsWord (c : Char) : Bool :=
  isSpace c || c == '"' || (punctuation? c).isSome

/-- Reads one character. -/
def lexStep (state : Lexing × List Token) (c : Char) : Option (Lexing × List Token) :=
  let tokens := state.2
  match state.1 with
  | .between => startToken tokens c
  | .word chars =>
    if endsWord c then do
      let value ← word? chars.reverse
      startToken (.scalar value :: tokens) c
    else some (.word (c :: chars), tokens)
  | .text chars =>
    if c = '"' then
      some (.between, .scalar (.string (String.ofList chars.reverse)) :: tokens)
    else if c = '\\' then some (.escape chars, tokens)
    else if c.toNat < 0x20 then none
    else some (.text (c :: chars), tokens)
  | .escape chars =>
    if c = 'u' then some (.code chars none 0 0, tokens)
    else (escaped? c).map fun e => (.text (e :: chars), tokens)
  | .code chars high digits value => do
    let value := 16 * value + (← hexValue? c)
    if digits = 3 then (afterCode chars high value).map fun next => (next, tokens)
    else some (.code chars high (digits + 1) value, tokens)
  | .pair chars high => if c = '\\' then some (.pairEscape chars high, tokens) else none
  | .pairEscape chars high => if c = 'u' then some (.code chars (some high) 0 0, tokens) else none

/-- The tokens of a text. -/
def tokens? (text : String) : Option (List Token) := do
  let (state, tokens) ← text.toList.foldlM lexStep (.between, [])
  match state with
  | .between => some tokens.reverse
  | .word chars =>
    let value ← word? chars.reverse
    some (.scalar value :: tokens).reverse
  | _ => none

end SearchMapper.Json
