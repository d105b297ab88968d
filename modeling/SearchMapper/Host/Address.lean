/-!
# Addresses of hosts

Hosts that are given by their number: IPv4 addresses in decimal, octal or hexadecimal parts, and
IPv6 addresses in groups of hexadecimal digits.
-/

namespace SearchMapper.Host

/-- A number in digits of a base. -/
def numberIn? (base : Nat) (digits : List Char) : Option Nat :=
  digits.foldlM
    (fun n c =>
      let d := if c.isDigit then c.toNat - '0'.toNat else c.toLower.toNat - 'a'.toNat + 10
      if c.isAlphanum && d < base then some (base * n + d) else none) 0

/-! ## IPv4 -/

/-- A part of an IPv4 address: decimal, octal after a zero or hexadecimal after `0x`. -/
def ipv4Number? : List Char → Option Nat
  | [] => none
  | '0' :: 'x' :: digits | '0' :: 'X' :: digits => numberIn? 16 digits
  | ['0'] => some 0
  | '0' :: digits => numberIn? 8 digits
  | digits => numberIn? 10 digits

/-- The parts between dots, without an empty one at the end. -/
def labels (host : List Char) : List (List Char) :=
  let parts := host.splitOn '.'
  if parts.length > 1 && parts.getLast? == some [] then parts.dropLast else parts

/-- The last part of the host is a number, so the host has to be an IPv4 address. -/
def endsInNumber (host : List Char) : Bool :=
  match (labels host).getLast? with
  | some last => !last.isEmpty && (last.all Char.isDigit || (ipv4Number? last).isSome)
  | none => false

/-- The host is an IPv4 address. -/
def isIpv4 (host : List Char) : Bool :=
  let parts := labels host
  match parts.mapM ipv4Number? with
  | none => false
  | some numbers =>
    parts.length ≤ 4 && numbers.dropLast.all (· < 256) &&
      numbers.getLast?.any (· < Nat.pow 256 (5 - parts.length))

/-! ## IPv6 -/

/-- A part of an IPv4 address inside an IPv6 address: decimal, without zeros before it. -/
def isOctet (digits : List Char) : Bool :=
  digits.all Char.isDigit && !digits.isEmpty && (digits.length == 1 || digits.head? != some '0') &&
    (numberIn? 10 digits).any (· < 256)

/-- The number of 16-bit groups that a part of an IPv6 address stands for. -/
def groupSize? (isLast : Bool) (part : List Char) : Option Nat :=
  if 1 ≤ part.length && part.length ≤ 4 && (numberIn? 16 part).isSome then some 1
  else
    let octets := part.splitOn '.'
    if isLast && octets.length == 4 && octets.all isOctet then some 2 else none

/-- The number of groups of parts between colons; none of them may be empty. -/
def groupCount? (endsAddress : Bool) (chars : List Char) : Option Nat :=
  if chars.isEmpty then some 0
  else
    let parts := chars.splitOn ':'
    match parts.getLast? with
    | none => some 0
    | some last => do
      let sizes ← parts.dropLast.mapM (groupSize? false)
      return sizes.foldl (· + ·) 0 + (← groupSize? endsAddress last)

/-- The two sides of the first double colon. -/
def splitDouble : List Char → Option (List Char × List Char)
  | ':' :: ':' :: rest => some ([], rest)
  | c :: rest => (splitDouble rest).map fun (left, right) => (c :: left, right)
  | [] => none

/-- The text is an IPv6 address: eight groups, or fewer around a double colon. -/
def isIpv6 (chars : List Char) : Bool :=
  match splitDouble chars with
  | none => groupCount? true chars == some 8
  | some (left, right) =>
    match groupCount? false left, groupCount? true right with
    | some a, some b => a + b ≤ 7
    | _, _ => false

end SearchMapper.Host
