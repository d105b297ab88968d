import SearchMapper.Floating.Layout
import SearchMapper.Json.Basic

/-!
# JSON text

Two layouts of a value: `Json.compact` without any blanks, and `Json.pretty` with one member
or item a line. Both write the same tokens. Strings escape quotes, backslashes and control
characters, and nothing else.
-/

namespace SearchMapper

/-- A hexadecimal digit in lower case. -/
def hexDigit (n : Nat) : Char :=
  Nat.digitChar (n % 16)

/-- One character inside a JSON string. -/
def escapeChar (c : Char) : String :=
  match c with
  | '"' => "\\\""
  | '\\' => "\\\\"
  | '\x08' => "\\b"
  | '\x0c' => "\\f"
  | '\n' => "\\n"
  | '\r' => "\\r"
  | '\t' => "\\t"
  | c =>
    if c.toNat < 0x20 then
      "\\u00" ++ String.ofList [hexDigit (c.toNat / 16), hexDigit c.toNat]
    else String.singleton c

/-- A text as a JSON string. -/
def quoteJson (text : String) : String :=
  text.toList.foldl (fun out c => out ++ escapeChar c) "\"" ++ "\""

/-- The text of a number. -/
def JsonNumber.text : JsonNumber → String
  | .int n _ => toString n
  | .double x _ => Floating.render x

namespace Json

/-- The text of a value that holds no others. -/
def scalarText : Json → String
  | .bool true => "true"
  | .bool false => "false"
  | .number n => n.text
  | .string text => quoteJson text
  | _ => "null"

/-! ## Compact layout -/

mutual
/-- The value in one line without blanks. -/
def compact : Json → String
  | .array items => "[" ++ compactItems items ++ "]"
  | .object members => "\x7b" ++ compactMembers members ++ "\x7d"
  | scalar => scalar.scalarText

/-- Items with commas between them. -/
def compactItems : List Json → String
  | [] => ""
  | [item] => compact item
  | item :: rest => compact item ++ "," ++ compactItems rest

/-- Members with commas between them. -/
def compactMembers : List (String × Json) → String
  | [] => ""
  | [(name, value)] => quoteJson name ++ ":" ++ compact value
  | (name, value) :: rest => quoteJson name ++ ":" ++ compact value ++ "," ++ compactMembers rest
end

/-! ## Pretty layout -/

/-- A line break followed by two blanks for each level. -/
def newline (level : Nat) : String :=
  "\n" ++ String.ofList (List.replicate (2 * level) ' ')

mutual
/-- The value with one member or item a line, inside `level` others. -/
def prettyAt (level : Nat) : Json → String
  | .array [] => "[]"
  | .array items => "[" ++ prettyItems (level + 1) items ++ newline level ++ "]"
  | .object [] => "\x7b\x7d"
  | .object members => "\x7b" ++ prettyMembers (level + 1) members ++ newline level ++ "\x7d"
  | scalar => scalar.scalarText

/-- Items, each on a line of its own. -/
def prettyItems (level : Nat) : List Json → String
  | [] => ""
  | [item] => newline level ++ prettyAt level item
  | item :: rest => newline level ++ prettyAt level item ++ "," ++ prettyItems level rest

/-- Members, each on a line of its own. -/
def prettyMembers (level : Nat) : List (String × Json) → String
  | [] => ""
  | [(name, value)] => newline level ++ quoteJson name ++ ": " ++ prettyAt level value
  | (name, value) :: rest =>
    newline level ++ quoteJson name ++ ": " ++ prettyAt level value ++ "," ++
      prettyMembers level rest
end

/-- The value with one member or item a line. -/
def pretty (value : Json) : String := prettyAt 0 value

end Json
end SearchMapper
