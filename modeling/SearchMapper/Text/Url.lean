import SearchMapper.Host.Basic
import SearchMapper.Text.LowerCase

/-!
# Absolute URLs

Which texts are absolute URLs, by the rules that browsers follow: a scheme, and for the
schemes of the web a host and perhaps a port. Nothing is resolved or looked up.
-/

namespace SearchMapper.Url

/-- The character is a C0 control or a space. -/
def isControlOrSpace (c : Char) : Bool := c.toNat ≤ 0x20

/-- The text as it is parsed: without controls and spaces at its ends, and without tabs and
line breaks anywhere. -/
def strip (text : String) : List Char :=
  let trimmed := ((text.toList.dropWhile isControlOrSpace).reverse.dropWhile isControlOrSpace)
  trimmed.reverse.filter fun c => c != '\t' && c != '\n' && c != '\r'

/-- The scheme in lower case, and what follows its colon. -/
def scheme? (chars : List Char) : Option (String × List Char) :=
  let isPart (c : Char) : Bool := c.isAlphanum || c == '+' || c == '-' || c == '.'
  match chars.head?, chars.dropWhile isPart with
  | some first, ':' :: rest =>
    if first.isAlpha then some (Text.asciiLower (String.ofList (chars.takeWhile isPart)), rest)
    else none
  | _, _ => none

/-- The schemes that need a host. -/
def webSchemes : List String := ["http", "https", "ws", "wss", "ftp"]

/-- A slash in either direction. -/
def isSlash (c : Char) : Bool := c == '/' || c == '\\'

/-- The path, the query or the fragment starts here. -/
def startsPath (c : Char) : Bool := c == '/' || c == '?' || c == '#'

/-- The same where slashes may lean either way. -/
def startsWebPath (c : Char) : Bool := isSlash c || startsPath c

/-! ## Users, hosts and ports -/

/-- The user before the last `@`, if there is an `@`, and what follows it. -/
def splitUser (authority : List Char) : Option (List Char) × List Char :=
  let place := (authority.reverse.takeWhile (· != '@')).reverse
  if place.length = authority.length then (none, place)
  else (some (authority.take (authority.length - place.length - 1)), place)

/-- The user has a name or a password; a colon alone stands for neither. -/
def hasCredentials (user : List Char) : Bool := user != [] && user != [':']

/-- The host of a place, and its port. -/
def hostAndPort (place : List Char) : List Char × List Char :=
  match place with
  | '[' :: _ =>
    let inside := place.takeWhile (· != ']')
    let after := place.dropWhile (· != ']')
    (inside ++ after.take 1, after.drop 1)
  | _ => (place.takeWhile (· != ':'), place.dropWhile (· != ':'))

/-- The digits of a port, if there are any, stand for a number of 16 bits. A slash ends them,
whichever way it leans. -/
def isPort (port : List Char) : Bool :=
  let digits := port.takeWhile (!isSlash ·)
  digits.all Char.isDigit && (Host.numberIn? 10 digits).any (· < 65536)

/-- The place after the two slashes of a URL is a host, perhaps with a user before it and a port
after it. Without a host there is no port and no user, and an `@` only at the very end. -/
def isPlace (isHost : List Char → Bool) (startsPath : Char → Bool) (chars : List Char) : Bool :=
  let (user, place) := splitUser (chars.takeWhile (!startsPath ·))
  let (host, port) := hostAndPort place
  isHost host &&
    (match port with
      | [] => true
      | ':' :: digits => !host.isEmpty && isPort digits
      | _ => false) &&
    (!host.isEmpty ||
      match user with
      | none => true
      | some name => !hasCredentials name && (name != [] || !chars.any startsPath))

/-- What follows the scheme of a URL is in order. -/
def isRest (scheme : String) (rest : List Char) : Bool :=
  if scheme ∈ webSchemes then
    isPlace Host.isHost startsWebPath (rest.dropWhile isSlash)
  else
    match rest with
    | first :: second :: after =>
      if scheme = "file" then
        !(isSlash first && isSlash second) ||
          Host.isFileHost (after.takeWhile (!startsWebPath ·))
      else first != '/' || second != '/' || isPlace Host.isOpaqueHost startsPath after
    | _ => true

/-- The text is an absolute URL. -/
def isAbsolute (text : String) : Bool :=
  match scheme? (strip text) with
  | none => false
  | some (scheme, rest) => isRest scheme rest

end SearchMapper.Url
