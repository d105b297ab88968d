/-!
# Date patterns of the backend

The backend writes date patterns with letters: `yyyy` for the year, `MM` for the month and so
on. Literal text with letters or quotes stands between single quotes, where a quote is written
twice. `BackendPattern.ofFormat` is the pattern for a date format; a directive without a symbol
of its own is taken as literal text.
-/

namespace SearchMapper.BackendPattern

/-- The symbol for a directive of one letter. -/
def symbol? : Char → Option String
  | 'Y' => some "yyyy"
  | 'y' => some "yy"
  | 'm' => some "MM"
  | 'b' => some "MMM"
  | 'd' => some "dd"
  | 'j' => some "DDD"
  | 'H' => some "HH"
  | 'M' => some "mm"
  | 'S' => some "ss"
  | 'f' => some "SSSSSSSSS"
  | 'z' => some "Z"
  | _ => none

/-- A piece of a pattern. -/
inductive Piece where
  | literal (c : Char)
  | symbol (letters : List Char)
deriving DecidableEq, Repr

/-- The pieces of a date format. -/
def pieces : List Char → List Piece
  | [] => []
  | '%' :: ':' :: 'z' :: rest => .symbol "XXX".toList :: pieces rest
  | '%' :: '%' :: rest => .literal '%' :: pieces rest
  | '%' :: c :: rest =>
    match symbol? c with
    | some symbol => .symbol symbol.toList :: pieces rest
    | none => .literal '%' :: .literal c :: pieces rest
  | c :: rest => .literal c :: pieces rest

/-- The character cannot stand outside quotes. -/
def needsQuotes (c : Char) : Bool := c.isAlpha || c == '\''

/-- A character inside quotes. -/
def quoted (c : Char) : List Char := if c = '\'' then ['\'', '\''] else [c]

/-- Literal text, between quotes if some character needs them. -/
def literalText (text : List Char) : List Char :=
  if text.any needsQuotes then '\'' :: text.flatMap quoted ++ ['\''] else text

/-- The pattern of pieces, after literal characters that are not written yet, latest first. -/
def assemble (pending : List Char) : List Piece → List Char
  | [] => literalText pending.reverse
  | .literal c :: rest => assemble (c :: pending) rest
  | .symbol letters :: rest => literalText pending.reverse ++ letters ++ assemble [] rest

/-- The backend's pattern for a date format. -/
def ofFormat (format : String) : String :=
  String.ofList (assemble [] (pieces format.toList))

end SearchMapper.BackendPattern
