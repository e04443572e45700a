/-!
Places in a YAML text: the characters that follow, and where they stand.
-/

namespace Fingerprint.Yaml

/-- Whether a character ends a line. -/
def isBreak (c : Char) : Bool :=
  c = '\n' || c = '\r' || c = '\u0085' || c = '\u2028' || c = '\u2029'

def isBlank (c : Char) : Bool := c = ' ' || c = '\t'

/-- Whether what follows is the end, the end of a line or a blank. -/
def isBlankOrEnd : List Char → Bool
  | [] => true
  | c :: _ => isBlank c || isBreak c

/-- Whether what follows is the end or the end of a line. -/
def isLineEnd : List Char → Bool
  | [] => true
  | c :: _ => isBreak c

/-- The number of bytes of characters. -/
def byteCount (chars : List Char) : Nat := chars.foldl (fun count c => count + c.utf8Size) 0

/-- A place in a text. -/
structure Place where
  chars : List Char
  /-- The number of bytes in front of the place. -/
  index : Nat
  line : Nat
  column : Nat
deriving Repr, Inhabited

namespace Place

/-- The place `count` characters further on in the line. -/
def advance (place : Place) (count : Nat) : Place :=
  { place with
    chars := place.chars.drop count
    index := place.index + byteCount (place.chars.take count)
    column := place.column + count }

/-- The longest run of characters of a kind, and the place behind it. The kind holds no line end. -/
def span (place : Place) (kind : Char → Bool) : List Char × Place :=
  let run := place.chars.takeWhile kind
  (run, place.advance run.length)

def skip (place : Place) (kind : Char → Bool) : Place := (place.span kind).2

/-- The line end at a place as it counts in a text, and the place behind it. Without a line end
there is none. -/
def readLine (place : Place) : List Char × Place :=
  let next (count : Nat) : Place :=
    ⟨place.chars.drop count, place.index + byteCount (place.chars.take count), place.line + 1, 0⟩
  match place.chars with
  | '\r' :: '\n' :: _ => (['\n'], next 2)
  | c :: _ =>
    if c = '\u2028' || c = '\u2029' then ([c], next 1)
    else if isBreak c then (['\n'], next 1)
    else ([], place)
  | [] => ([], place)

def skipLine (place : Place) : Place := place.readLine.2

/-- Passes over a comment up to the end of its line, if one begins here. -/
def skipComment (place : Place) : Place :=
  match place.chars with
  | '#' :: _ => place.skip (!isBreak ·)
  | _ => place

/-- Whether the mark of a document, `---` or `...`, stands at the front of the line. -/
def atDocumentMark (place : Place) : Bool :=
  place.column == 0 &&
    match place.chars with
    | '-' :: '-' :: '-' :: rest => isBlankOrEnd rest
    | '.' :: '.' :: '.' :: rest => isBlankOrEnd rest
    | _ => false

end Place

/-- Whether a character may stand in a YAML text. -/
def isAllowed (c : Char) : Bool :=
  let code := c.toNat
  code = 0x09 || code = 0x0A || code = 0x0D || (0x20 ≤ code && code ≤ 0x7E) || code = 0x85 ||
  (0xA0 ≤ code && code ≤ 0xFFFD) || 0x10000 ≤ code

/-- Whether a character may stand in a name: a letter, a digit, an underscore or a hyphen. -/
def isNameChar (c : Char) : Bool := c.isAlphanum || c = '_' || c = '-'

end Fingerprint.Yaml
