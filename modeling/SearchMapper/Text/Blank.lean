/-!
# Blank characters

The characters with the White_Space property, and the two things done with them: asking
whether a text holds nothing else, and cutting them off both ends.
-/

namespace SearchMapper.Text

/-- The character has the White_Space property. Zero-width spaces and the separators
U+001C to U+001F do not have it. -/
def isBlankChar (c : Char) : Bool :=
  let n := c.toNat
  (0x9 ≤ n && n ≤ 0xD) || n == 0x20 || n == 0x85 || n == 0xA0 || n == 0x1680 ||
    (0x2000 ≤ n && n ≤ 0x200A) || n == 0x2028 || n == 0x2029 || n == 0x202F ||
    n == 0x205F || n == 0x3000

/-- The text is empty or holds blank characters only. -/
def isBlank (text : String) : Bool :=
  text.toList.all isBlankChar

/-- The characters after the leading blank ones. -/
def skipBlanks (chars : List Char) : List Char :=
  chars.dropWhile isBlankChar

/-- The text without its leading and trailing blank characters. -/
def trim (text : String) : String :=
  String.ofList (skipBlanks (skipBlanks text.toList).reverse).reverse

end SearchMapper.Text
