import Fingerprint.Url.Host

/-!
The path of an absolute address.

An address is read as browsers read it: control characters and spaces at its ends and line breaks
anywhere are passed over, a scheme with known rules needs a host and takes backslashes for slashes,
and dot segments of the path are resolved.
-/

namespace Fingerprint.Url

/-- How the part of an address behind the scheme is read. -/
inductive SchemeKind where
  /-- A scheme with a host. -/
  | special
  | file
  | other
deriving DecidableEq, Repr, Inhabited

def kindOfScheme (scheme : String) : SchemeKind :=
  if scheme = "file" then .file
  else if ["http", "https", "ws", "wss", "ftp"].contains scheme then .special
  else .other

/-- Whether a character separates the parts of a path. -/
def SchemeKind.isSlash (kind : SchemeKind) (c : Char) : Bool :=
  c = '/' || (kind ≠ .other && c = '\\')

def isControlOrSpace (c : Char) : Bool := c.toNat ≤ 0x20

/-- The characters of an address that count. -/
def significant (text : String) : List Char :=
  let chars := (text.toList.dropWhile isControlOrSpace).reverse.dropWhile isControlOrSpace
  chars.reverse.filter fun c => !(c = '\t' || c = '\n' || c = '\r')

/-- The scheme in lower case and the characters behind its colon. -/
def splitScheme? (chars : List Char) : Option (String × List Char) :=
  let within (c : Char) : Bool := c.isAlphanum || c = '+' || c = '-' || c = '.'
  let scheme := chars.takeWhile within
  match scheme, chars.dropWhile within with
  | first :: _, ':' :: rest =>
    if first.isAlpha then some (String.ofList (scheme.map Char.toLower), rest) else none
  | _, _ => none

/-- Whether a character ends the part of an address that names the host. -/
def SchemeKind.endsAuthority (kind : SchemeKind) (c : Char) : Bool :=
  kind.isSlash c || c = '?' || c = '#'

/-- The characters behind the last `@`; all characters if there is none. -/
def afterUserInfo (authority : List Char) : List Char :=
  (authority.reverse.takeWhile (· ≠ '@')).reverse

/-- The characters before the colon of the port, and those behind it if there is one. A colon inside
brackets belongs to the host. -/
def splitPort (inBrackets : Bool) : List Char → List Char × Option (List Char)
  | [] => ([], none)
  | c :: rest =>
    if c = ':' && !inBrackets then ([], some rest)
    else
      let (host, port) :=
        splitPort (if c = '[' then true else if c = ']' then false else inBrackets) rest
      (c :: host, port)

def isPort (text : List Char) : Bool :=
  text.all Char.isDigit && (valueInBase? 10 text).any (· < 65536)

/-- Whether a user, a host and a port are valid together. -/
def SchemeKind.acceptsAuthority (kind : SchemeKind) (authority : List Char) : Bool :=
  let named := afterUserInfo authority
  let (host, port) := splitPort false named
  let hasUser := authority.contains '@'
  let hostValid := match kind with
    | .other => isOpaqueHost host && !(host.isEmpty && (port.isSome || hasUser))
    | _ => isHost host
  hostValid && port.all isPort

/-- Whether a segment stands for the directory itself. -/
def isSingleDot (segment : List Char) : Bool :=
  let segment := segment.map Char.toLower
  segment = ['.'] || segment = ['%', '2', 'e']

/-- Whether a segment stands for the directory above. -/
def isDoubleDot (segment : List Char) : Bool :=
  let segment := segment.map Char.toLower
  [ ['.', '.'], ['.', '%', '2', 'e'], ['%', '2', 'e', '.'],
    ['%', '2', 'e', '%', '2', 'e'] ].contains segment

/-- The characters of a path that are written as they are. -/
def keepsInPath (c : Char) : Bool :=
  0x20 < c.toNat && c.toNat < 0x7F &&
    !(c = '"' || c = '#' || c = '<' || c = '>' || c = '?' || c = '\x60' || c = '\x7b' ||
      c = '\x7d' ||
      c = '^')

/-- The characters of an opaque path that are written as they are. -/
def keepsInOpaquePath (c : Char) : Bool := 0x20 ≤ c.toNat && c.toNat < 0x7F

def upperHexDigit (value : Nat) : Char := (Nat.digitChar value).toUpper

def percentEncodeByte (byte : UInt8) : List Char :=
  ['%', upperHexDigit (byte.toNat / 16), upperHexDigit (byte.toNat % 16)]

def percentEncode (keeps : Char → Bool) (chars : List Char) : List Char :=
  chars.flatMap fun c =>
    if keeps c then [c] else (Text.encodeChar c).flatMap percentEncodeByte

/-- Resolves dot segments. The segments so far come last first; a dot segment at the end leaves an
empty segment. -/
def resolveSegments (before : List (List Char)) : List (List Char) → List (List Char)
  | [] => before.reverse
  | segment :: rest =>
    let last := rest.isEmpty
    if isDoubleDot segment then
      resolveSegments (if last then [] :: before.drop 1 else before.drop 1) rest
    else if isSingleDot segment then resolveSegments (if last then [] :: before else before) rest
    else resolveSegments (percentEncode keepsInPath segment :: before) rest

/-- The segments of a path whose first slash was passed. -/
def SchemeKind.segments (kind : SchemeKind) : List Char → List (List Char)
  | [] => [[]]
  | c :: rest =>
    if kind.isSlash c then [] :: kind.segments rest
    else match kind.segments rest with
      | segment :: others => (c :: segment) :: others
      | [] => [[c]]

/-- The path that segments denote. -/
def joinSegments (segments : List (List Char)) : String :=
  String.ofList (segments.flatMap ('/' :: ·))

/-- The characters before the query and the fragment. -/
def beforeQuery (chars : List Char) : List Char :=
  chars.takeWhile fun c => !(c = '?' || c = '#')

/-- The path behind the host; the slash at its front may be missing. -/
def SchemeKind.hierarchicalPath (kind : SchemeKind) (chars : List Char) : String :=
  match beforeQuery chars with
  | [] => if kind = .other then "" else "/"
  | c :: rest =>
    joinSegments (resolveSegments [] (kind.segments (if kind.isSlash c then rest else c :: rest)))

/-- The path behind an authority, if the authority is valid. -/
def SchemeKind.pathAfterAuthority? (kind : SchemeKind) (chars : List Char) : Option String :=
  let authority := chars.takeWhile (!kind.endsAuthority ·)
  if kind.acceptsAuthority authority then
    some (kind.hierarchicalPath (chars.dropWhile (!kind.endsAuthority ·)))
  else none

/-- Whether a text is a drive letter, which stands where a host would. -/
def isDrive (host : List Char) : Bool :=
  match host with
  | [letter, mark] => letter.isAlpha && (mark = ':' || mark = '|')
  | _ => false

/-- The path of an address of a file. -/
def filePath? (chars : List Char) : Option String :=
  match chars with
  | first :: second :: rest =>
    if SchemeKind.file.isSlash first && SchemeKind.file.isSlash second then
      let host := rest.takeWhile (!SchemeKind.file.endsAuthority ·)
      if host.isEmpty || isDrive host then some (SchemeKind.file.hierarchicalPath rest)
      else if isHost host then
        some (SchemeKind.file.hierarchicalPath (rest.dropWhile (!SchemeKind.file.endsAuthority ·)))
      else none
    else some (SchemeKind.file.hierarchicalPath chars)
  | _ => some (SchemeKind.file.hierarchicalPath chars)

/-- The path of an address that is absolute and valid. -/
def path? (text : String) : Option String := do
  let (scheme, rest) ← splitScheme? (significant text)
  match kindOfScheme scheme, rest with
  | .special, rest =>
    SchemeKind.special.pathAfterAuthority? (rest.dropWhile SchemeKind.special.isSlash)
  | .file, rest => filePath? rest
  | .other, '/' :: '/' :: rest => SchemeKind.other.pathAfterAuthority? rest
  | .other, '/' :: rest => return SchemeKind.other.hierarchicalPath ('/' :: rest)
  | .other, rest => return String.ofList (percentEncode keepsInOpaquePath (beforeQuery rest))

end Fingerprint.Url
