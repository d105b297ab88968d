/-!
# Punycode

Any text in ASCII: its ASCII characters, a hyphen, and digits that say which other characters to
insert, and where. The digits of base 36 make numbers of variable length, least digit first; each
number is how far to go on through the places of the text and, once past its end, to the next code
point.
-/

namespace SearchMapper.Punycode

/-- The value of a digit: the letters come before the ASCII digits. -/
def digit? (c : Char) : Option Nat :=
  if c.isAlpha then some (c.toLower.toNat - 'a'.toNat)
  else if c.isDigit then some (26 + (c.toNat - '0'.toNat))
  else none

/-- The digit at a place (36, 72, 108 and so on) ends its number if it is below this. -/
def threshold (place bias : Nat) : Nat := min 26 (max 1 (place - bias))

/-- Numbers have 32 bits. -/
def bounded? (n : Nat) : Option Nat := if n < UInt32.size then some n else none

/-- Reads the rest of a number, of which `total` is read, from the digit at `place`. -/
def readNumber? (bias place weight total : Nat) : List Char → Option (Nat × List Char)
  | [] => none
  | c :: rest => do
    let digit ← digit? c
    let total ← bounded? (total + digit * weight)
    if digit < threshold place bias then some (total, rest)
    else
      let weight ← bounded? (weight * (36 - threshold place bias))
      readNumber? bias (place + 36) weight total rest

/-- A number takes at least one digit. -/
theorem readNumber?_length {bias place weight total : Nat} {chars : List Char}
    {read : Nat × List Char} (h : readNumber? bias place weight total chars = some read) :
    read.2.length < chars.length := by
  induction chars generalizing place weight total with
  | nil => simp [readNumber?] at h
  | cons c rest ih =>
    rw [readNumber?] at h
    simp only [Option.bind_eq_bind, Option.bind_eq_some_iff] at h
    obtain ⟨digit, -, next, -, h⟩ := h
    split at h
    · obtain rfl := Option.some.inj h
      simp
    · obtain ⟨wider, -, h⟩ := Option.bind_eq_some_iff.mp h
      exact Nat.lt_succ_of_lt (ih h)

/-- Divides by 35 until the value is at most 455, and counts the places of the divisions. -/
def scale (n places : Nat) : Nat × Nat :=
  if 455 < n then scale (n / 35) (places + 36) else (n, places)
termination_by n
decreasing_by exact Nat.div_lt_self (by omega) (by omega)

/-- The bias for the next number, after a number that led to a text of `length` characters. -/
def nextBias (number length : Nat) (isFirst : Bool) : Nat :=
  let damped := if isFirst then number / 700 else number / 2
  let (n, places) := scale (damped + damped / length) 0
  places + 36 * n / (n + 38)

/-- Inserts the characters that the digits stand for, where `codePoint` and `place` are those of the
last insertion. -/
def insertFrom? (text : List Char) (codePoint place bias : Nat) :
    List Char → Option (List Char)
  | [] => some text
  | c :: digits =>
    match _read : readNumber? bias 36 1 place (c :: digits) with
    | none => none
    | some (total, rest) =>
      let length := text.length + 1
      let next := codePoint + total / length
      if next.isValidChar then
        insertFrom? (text.insertIdx (total % length) (Char.ofNat next)) next (total % length + 1)
          (nextBias (total - place) length (place == 0)) rest
      else none
termination_by digits => digits.length
decreasing_by exact readNumber?_length _read

/-- The text that is encoded. The last hyphen divides the ASCII characters from the digits; the
first character of all is never such a hyphen. -/
def decode? (chars : List Char) : Option (List Char) :=
  let digits := (chars.reverse.takeWhile (· != '-')).reverse
  match (chars.take (chars.length - digits.length)).dropLast with
  | [] => insertFrom? [] 128 0 72 chars
  | text => insertFrom? text 128 0 72 digits

end SearchMapper.Punycode
