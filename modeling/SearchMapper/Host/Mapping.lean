import SearchMapper.Host.MappingTable
import SearchMapper.Text.Category
import SearchMapper.Text.LowerCase

/-!
# The characters of a host

What each character of a host stands for. Upper case and compatibility forms stand for plain
characters, a few characters for nothing at all, and others cannot be in a host.
-/

namespace SearchMapper.Host

/-- The characters that stand for nothing: soft hyphens, joiners of graphemes, fillers and the
selectors of variants. -/
def ignoredRanges : List (Nat × Nat) := [
    (0xAD, 0xAD), (0x34F, 0x34F), (0x115F, 0x1160), (0x17B4, 0x17B5), (0x180B, 0x180F),
    (0x200B, 0x200B), (0x2060, 0x2064), (0x206A, 0x206F), (0x3164, 0x3164), (0xFE00, 0xFE0F),
    (0xFEFF, 0xFEFF), (0xFFA0, 0xFFA0), (0x1BCA0, 0x1BCA3), (0x1D173, 0x1D17A),
    (0xE0100, 0xE01EF)]

/-- The signs that no host has: some stand for a text with a space in it, others would hide a dot or
say how an ideograph is put together. -/
def refusedRanges : List (Nat × Nat) := [
    (0xA8, 0xA8), (0xAF, 0xAF), (0xB4, 0xB4), (0xB8, 0xB8), (0x2D8, 0x2DD), (0x37A, 0x37A),
    (0x384, 0x385), (0x1FBD, 0x1FBD), (0x1FBF, 0x1FC1), (0x1FCD, 0x1FCF), (0x1FDD, 0x1FDF),
    (0x1FED, 0x1FEE), (0x1FFD, 0x1FFE), (0x2017, 0x2017), (0x2024, 0x2026), (0x203E, 0x203E),
    (0x2488, 0x249B), (0x2FF0, 0x2FFF), (0x309B, 0x309C), (0x31EF, 0x31EF), (0x33C2, 0x33C2),
    (0x33C7, 0x33C7), (0x33D8, 0x33D8), (0xFC5E, 0xFC63), (0xFDFA, 0xFDFB), (0xFE12, 0xFE12),
    (0xFE19, 0xFE19), (0xFE30, 0xFE30), (0xFE49, 0xFE4C), (0xFE52, 0xFE52), (0xFE70, 0xFE70),
    (0xFE72, 0xFE72), (0xFE74, 0xFE74), (0xFE76, 0xFE76), (0xFE78, 0xFE78), (0xFE7A, 0xFE7A),
    (0xFE7C, 0xFE7C), (0xFE7E, 0xFE7E), (0xFFE3, 0xFFE3), (0xFFFC, 0xFFFD), (0x1F100, 0x1F100)]

/-- The Cherokee letters of which the small ones stand for the capital ones. -/
def cherokeeRange : Nat × Nat := (0x13A0, 0x13F5)

/-- What the table has for a character. -/
def tableText? (c : Char) : Option (List Char) :=
  match (mappingRows.takeWhile fun (first, _) => first ≤ c.toNat).getLast? with
  | some (first, texts) => (texts.toList.splitOn ' ')[c.toNat - first]?
  | none => none

/-- What a character of a host stands for; none if no host may have it. All of ASCII is kept here,
apart from its case. -/
def mapChar? (c : Char) : Option (List Char) :=
  if c.toNat < 0x80 then some [c.toLower]
  else if Text.inRanges ignoredRanges c.toNat then some []
  else if Text.inRanges refusedRanges c.toNat then none
  else if Text.isOther c then if c = '\u200c' || c = '\u200d' then some [c] else none
  else
    match tableText? c with
    | some text => some text
    | none => if Text.inRanges [cherokeeRange] c.toNat then some [c] else some (Text.lowerChar c)

/-- The character stands for itself. -/
def isKept (c : Char) : Bool := mapChar? c == some [c]

/-- The text that all characters together stand for. -/
def mapText? (chars : List Char) : Option (List Char) := do
  return (← chars.mapM mapChar?).flatten

end SearchMapper.Host
