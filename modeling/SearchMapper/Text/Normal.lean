import SearchMapper.Text.Composition

/-!
# Composed normal form

One text can be written in several ways: a letter with marks may be one character or several, and
marks of different classes may come in any order. The normal form takes letters and marks apart,
orders the marks and puts together what is a character of its own.
-/

namespace SearchMapper.Text

/-- The class that orders a mark among the marks of its letter; zero for all other characters. -/
def combiningClass (c : Char) : Nat :=
  match combiningClasses.find? fun (first, last, _) => first ≤ c.toNat && c.toNat ≤ last with
  | some (_, _, k) => k
  | none => 0

/-! ## Syllables of Hangul -/

/-- The first syllable; the others follow in the order of lead, vowel and tail. -/
def syllableBase : Nat := 0xAC00

/-- The first lead consonant, of 19. -/
def leadBase : Nat := 0x1100

/-- The first vowel, of 21. -/
def vowelBase : Nat := 0x1161

/-- The code point before the first tail consonant, of 27: it is where no tail would be. -/
def tailBase : Nat := 0x11A7

/-- The lead, the vowel and perhaps the tail of a syllable. -/
def splitSyllable? (c : Char) : Option (List Char) :=
  let index := c.toNat - syllableBase
  if syllableBase ≤ c.toNat && index < 19 * 21 * 28 then
    let lead := Char.ofNat (leadBase + index / (21 * 28))
    let vowel := Char.ofNat (vowelBase + index % (21 * 28) / 28)
    let tail := index % 28
    some (lead :: vowel :: if tail = 0 then [] else [Char.ofNat (tailBase + tail)])
  else none

/-- The syllable of a lead and a vowel, or of a syllable without a tail and a tail. -/
def joinSyllable? (a b : Char) : Option Char :=
  let (lead, vowel) := (a.toNat - leadBase, b.toNat - vowelBase)
  let (index, tail) := (a.toNat - syllableBase, b.toNat - tailBase)
  if leadBase ≤ a.toNat && lead < 19 && vowelBase ≤ b.toNat && vowel < 21 then
    some (Char.ofNat (syllableBase + (lead * 21 + vowel) * 28))
  else if syllableBase ≤ a.toNat && index < 19 * 21 * 28 && index % 28 == 0 &&
      tailBase < b.toNat && tail < 28 then
    some (Char.ofNat (a.toNat + tail))
  else none

/-! ## Taking apart -/

/-- The letter and the marks of a character, of at most as many marks as given. -/
def splitMarks : Nat → Char → List Char
  | 0, c => [c]
  | marks + 1, c =>
    match compositions.find? (·.whole == c) with
    | some part => splitMarks marks part.base ++ [part.mark]
    | none => [c]

/-- The characters that a character is made of. No character has more than three marks. -/
def decompose (c : Char) : List Char :=
  match splitSyllable? c with
  | some parts => parts
  | none => splitMarks 3 c

/-! ## Ordering -/

/-- Puts a character before an ordered text, behind the marks of lower classes. -/
def insertMark (c : Char) : List Char → List Char
  | [] => [c]
  | d :: rest =>
    if 0 < combiningClass d && combiningClass d < combiningClass c then d :: insertMark c rest
    else c :: d :: rest

/-- The text with the marks of each letter in the order of their classes. -/
def orderMarks (chars : List Char) : List Char := chars.foldr insertMark []

/-! ## Putting together -/

/-- The character that a letter and a mark are together. -/
def compose? (base mark : Char) : Option Char :=
  match joinSyllable? base mark with
  | some syllable => some syllable
  | none => (compositions.find? fun c => c.base == base && c.mark == mark).map (·.whole)

/-- No mark of the same or a higher class stands between a letter and the mark `c`, where `marks`
are those that do stand there. -/
def reaches (marks : List Char) (c : Char) : Bool :=
  match marks.getLast? with
  | none => true
  | some last => combiningClass last < combiningClass c

/-- Puts the letter `base` together with the marks that reach it, where `marks` between it and the
rest stay as they are. -/
def composeFrom (base : Char) (marks : List Char) : List Char → List Char
  | [] => base :: marks
  | c :: rest =>
    match if reaches marks c then compose? base c else none with
    | some whole => composeFrom whole marks rest
    | none =>
      if combiningClass c = 0 then base :: marks ++ composeFrom c [] rest
      else composeFrom base (marks ++ [c]) rest

/-- Puts together all letters and marks of an ordered text. -/
def compose : List Char → List Char
  | [] => []
  | c :: rest => if combiningClass c = 0 then composeFrom c [] rest else c :: compose rest

/-- The composed normal form. A text in ASCII is in this form. -/
def normalize (chars : List Char) : List Char :=
  if chars.all (·.toNat < 0x80) then chars else compose (orderMarks (chars.flatMap decompose))

end SearchMapper.Text
