import SearchMapper.Text.CaseTable
import SearchMapper.Text.Ranges

/-!
# Lower case

The full lower-case mapping of a text. All characters map on their own, except for the
capital sigma: at the end of a word it becomes the final form.
-/

namespace SearchMapper.Text

/-- The Cased property. -/
def isCased (c : Char) : Bool :=
  inRanges casedRanges c.toNat

/-- The Case_Ignorable property: apostrophes, combining marks and the like, which belong to
the word around them. -/
def isCaseIgnorable (c : Char) : Bool :=
  inRanges caseIgnorableRanges c.toNat

/-- The lower-case form of one character outside any context. -/
def lowerChar (c : Char) : List Char :=
  if c = 'İ' then ['i', '\u0307']
  else
    match lowerRuns.find? (·.covers c.toNat) with
    | some run => [Char.ofNat (c.toNat + run.shift).toNat]
    | none => [c]

/-- The first character that is not ignorable is cased: the word goes on. -/
def continuesWord : List Char → Bool
  | [] => false
  | c :: rest => if isCaseIgnorable c then continuesWord rest else isCased c

/-- Lower-cases `chars`, where `inWord` says that the last character before them that is not
ignorable is cased. -/
def lowerFrom (inWord : Bool) : List Char → List Char
  | [] => []
  | c :: rest =>
    let here :=
      if c = 'Σ' then [if inWord && !continuesWord rest then 'ς' else 'σ'] else lowerChar c
    here ++ lowerFrom (if isCaseIgnorable c then inWord else isCased c) rest

/-- The lower-case form of a text. -/
def toLower (text : String) : String :=
  String.ofList (lowerFrom false text.toList)

/-- The lower-case form of an ASCII letter; every other character stays. -/
def asciiLower (text : String) : String :=
  String.ofList (text.toList.map Char.toLower)

end SearchMapper.Text
