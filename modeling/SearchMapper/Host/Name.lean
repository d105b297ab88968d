import SearchMapper.Host.Direction
import SearchMapper.Host.Joining
import SearchMapper.Host.Mapping
import SearchMapper.Text.Normal
import SearchMapper.Text.Punycode

/-!
# Names of hosts

Which texts are names that can be looked up. A name is made of labels with dots between them. A
label with other characters than ASCII may also come encoded, and then it is held to the same rules.
-/

namespace SearchMapper.Host

/-- An ASCII character. -/
def isAscii (c : Char) : Bool := c.toNat < 0x80

/-- The ASCII characters that a name cannot have. -/
def isForbiddenInName (c : Char) : Bool :=
  c.toNat ≤ 0x20 || c.toNat == 0x7F || "#%/:<>?@[\\]^|".toList.contains c

/-- The label as it is read: decoded, if it starts with `xn--`. There is no use in encoding ASCII,
and what is encoded must be in its final form. -/
def readLabel? (label : List Char) : Option (List Char) :=
  match label with
  | 'x' :: 'n' :: '-' :: '-' :: digits => do
    if label.getLast? == some '-' || digits.length > 2000 || !label.all isAscii then none
    else
      let text ← Punycode.decode? digits
      if text.all isKept && Text.normalize text == text then some text else none
  | _ => if label.length ≤ 1000 || label.all isAscii then some label else none

/-- A label does not start with a mark, and has joiners only in their places. -/
def isLabel (label : List Char) : Bool :=
  !label.head?.any Text.isMark && areJoinersPlaced [] label

/-- The labels are in order: each for itself, and all together in a line where some are written from
right to left. -/
def areLabels (labels : List (List Char)) : Bool :=
  labels.all isLabel && (!labels.any hasRight || labels.all keepsOrder)

/-- The name that a text stands for; none if it is not a name. A name may have empty labels but is
not empty itself. -/
def name? (chars : List Char) : Option (List Char) := do
  let name := Text.normalize (← mapText? chars)
  let labels ← (name.splitOn '.').mapM readLabel?
  if !name.isEmpty && !name.any isForbiddenInName && areLabels labels then some name else none

end SearchMapper.Host
