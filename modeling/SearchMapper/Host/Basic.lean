import SearchMapper.Host.Address
import SearchMapper.Host.Name

/-!
# Hosts

What a URL may have for a host: a name to look up, an address, or any text where nothing is known of
the scheme.
-/

namespace SearchMapper.Host

/-- The value of a hexadecimal digit of either case. -/
def hexDigit? (c : Char) : Option Nat := numberIn? 16 [c]

/-- The bytes of a text, where a percent sign and two hexadecimal digits stand for one. -/
def percentDecode : List Char → List UInt8
  | [] => []
  | '%' :: a :: b :: rest =>
    match hexDigit? a, hexDigit? b with
    | some high, some low => UInt8.ofNat (16 * high + low) :: percentDecode rest
    | _, _ => '%'.toNat.toUInt8 :: percentDecode (a :: b :: rest)
  | c :: rest => (String.singleton c).toUTF8.toList ++ percentDecode rest

/-- The host in brackets is an IPv6 address, where the bracket that opens is left out. -/
def isBracketed (host : List Char) : Bool :=
  host.getLast? == some ']' && isIpv6 host.dropLast

/-- The host is a name to look up or an address. It must be UTF-8 once it is decoded. -/
def isHost (host : List Char) : Bool :=
  match host with
  | '[' :: rest => isBracketed rest
  | _ =>
    match (String.fromUTF8? ⟨(percentDecode host).toArray⟩).bind (name? ·.toList) with
    | none => false
    | some name => !endsInNumber name || isIpv4 name

/-- The characters that no host can have. -/
def isForbidden (c : Char) : Bool :=
  c == '\x00' || "\t\n\r #/:<>?@[\\]^|".toList.contains c

/-- The host of a scheme of which nothing else is known. -/
def isOpaqueHost (host : List Char) : Bool :=
  match host with
  | '[' :: rest => isBracketed rest
  | _ => !host.any isForbidden

/-- The host of a file; none, or a drive letter in its place, is the local one. -/
def isFileHost (host : List Char) : Bool :=
  match host with
  | [] => true
  | [drive, mark] => (drive.isAlpha && (mark == ':' || mark == '|')) || isHost host
  | _ => isHost host

end SearchMapper.Host
