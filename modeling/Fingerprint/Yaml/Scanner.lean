import Fingerprint.Yaml.Scalar

/-!
The tokens of a YAML text, and the way to them from its characters.

The indentation of block collections shows in tokens of its own: one where a collection begins and
one where it ends. A key of a mapping is known only by the colon behind it, so that the tokens for
it are put in front of the key afterwards; such a key lies in one line and has at most 1024 bytes.
-/

namespace Fingerprint.Yaml

inductive Token where
  | versionDirective (major minor : Nat)
  | tagDirective (handle expansion : String)
  | documentStart
  | documentEnd
  | streamEnd
  | blockSequenceStart
  | blockMappingStart
  | blockEnd
  | flowSequenceStart
  | flowSequenceEnd
  | flowMappingStart
  | flowMappingEnd
  | blockEntry
  | flowEntry
  | key
  | value
  | alias (name : String)
  | anchor (name : String)
  /-- A tag as written: `handle` is empty for a tag that needs no expansion. -/
  | tag (handle suffix : String)
  | scalar (text : String) (plain : Bool)
deriving DecidableEq, Repr, Inhabited

/-- A place where a key may begin, if a colon follows. -/
structure KeyMark where
  /-- The number of tokens in front of the key. -/
  position : Nat
  /-- Whether it must turn out to be a key. -/
  required : Bool
  place : Place
deriving Repr, Inhabited

/-- Whether a possible key is too far behind to be one. -/
def KeyMark.isStale (key : KeyMark) (place : Place) : Bool :=
  key.place.line < place.line || key.place.index + 1024 < place.index

/-- A text being scanned. -/
structure Scan where
  place : Place
  /-- The number of collections in brackets around the place. -/
  flowLevel : Nat
  /-- The column of the innermost block collection, or -1. -/
  indent : Int
  /-- The columns of the collections around it. -/
  outer : List Int
  /-- Whether a key may begin here. -/
  keyAllowed : Bool
  /-- The possible key of each level of brackets, the innermost first. -/
  keys : List (Option KeyMark)
  tokens : Array Token
deriving Repr, Inhabited

namespace Scan

def start (chars : List Char) : Scan :=
  ⟨⟨chars, 0, 0, 0⟩, 0, -1, [], true, [none], #[]⟩

def inFlow (scan : Scan) : Bool := scan.flowLevel != 0

def emit (scan : Scan) (token : Token) : Scan := { scan with tokens := scan.tokens.push token }

/-- Passes over blanks, comments and line ends. A tab counts as a blank where no key may begin. A
byte order mark may begin a line; it takes a column. -/
def skipToToken : Nat → Scan → Scan
  | 0, scan => scan
  | fuel + 1, scan =>
    let place := scan.place
    let place :=
      if place.column = 0 && place.chars.head? = some '\uFEFF' then place.advance 1 else place
    let tabs := scan.inFlow || !scan.keyAllowed
    let place := (place.skip fun c => c = ' ' || (tabs && c = '\t')).skipComment
    if place.chars.head?.any isBreak then
      skipToToken fuel
        { scan with place := place.skipLine, keyAllowed := scan.keyAllowed || !scan.inFlow }
    else { scan with place }

/-- Forgets the possible keys that cannot be keys any more. -/
def dropStale (scan : Scan) : Option Scan := do
  let keys ← scan.keys.mapM fun key =>
    match key with
    | some mark =>
      if mark.isStale scan.place then (if mark.required then none else some none) else some key
    | none => some none
  return { scan with keys }

/-- Gives up the possible key of the innermost level. -/
def removeKey (scan : Scan) : Option Scan :=
  match scan.keys with
  | some mark :: rest => if mark.required then none else some { scan with keys := none :: rest }
  | _ => some scan

/-- Notes that a key may begin here. -/
def saveKey (scan : Scan) : Option Scan :=
  if scan.keyAllowed then do
    let scan ← scan.removeKey
    let required := !scan.inFlow && scan.indent = scan.place.column
    return { scan with keys := some ⟨scan.tokens.size, required, scan.place⟩ :: scan.keys.drop 1 }
  else some scan

/-- Ends the block collections that lie further right than a column. -/
def unroll (column : Int) : List Int → Scan → Scan
  | [], scan => scan
  | next :: rest, scan =>
    if column < scan.indent then
      unroll column rest { scan.emit .blockEnd with indent := next, outer := rest }
    else scan

def unrollTo (scan : Scan) (column : Int) : Scan :=
  if scan.inFlow then scan else unroll column scan.outer scan

/-- Begins a block collection if the column lies further right than the innermost one. Its token is
put at `position`. -/
def roll (scan : Scan) (column position : Nat) (token : Token) : Scan :=
  if scan.inFlow || (column : Int) ≤ scan.indent then scan
  else
    { scan with
      indent := column
      outer := scan.indent :: scan.outer
      tokens := scan.tokens.insertIdxIfInBounds position token }

def rollHere (scan : Scan) (token : Token) : Scan :=
  scan.roll scan.place.column scan.tokens.size token

/-- Goes on behind a token of `count` characters. -/
def pass (scan : Scan) (count : Nat) (keyAllowed : Bool) (token : Token) : Scan :=
  { scan.emit token with place := scan.place.advance count, keyAllowed }

def goTo (scan : Scan) (place : Place) (keyAllowed : Bool) (token : Token) : Scan :=
  { scan.emit token with place, keyAllowed }

/-! ### Directives -/

def number? (digits : List Char) : Option Nat :=
  if digits.isEmpty || 9 < digits.length then none
  else some (digits.foldl (fun value c => value * 10 + (c.toNat - '0'.toNat)) 0)

/-- The two numbers of a version with a point between them. -/
def readVersion (place : Place) : Option (Token × Place) := do
  let (major, place) := (place.skip isBlank).span Char.isDigit
  match place.chars with
  | '.' :: _ =>
    let (minor, place) := (place.advance 1).span Char.isDigit
    return (.versionDirective (← number? major) (← number? minor), place)
  | _ => none

/-- A handle of tags: an exclamation mark, or a name between two of them. Without its second mark a
handle is taken only outside directives. -/
def readHandle (directive : Bool) (place : Place) : Option (List Char × Place) :=
  match place.chars with
  | '!' :: _ =>
    let (name, place) := (place.advance 1).span isNameChar
    match place.chars with
    | '!' :: _ => some ('!' :: name ++ ['!'], place.advance 1)
    | _ => if directive && !name.isEmpty then none else some ('!' :: name, place)
  | _ => none

/-- Whether a character may stand in a tag. In angle brackets some more may. -/
def isTagChar (verbatim : Bool) (c : Char) : Bool :=
  isNameChar c || ";/?:@&=+$.%!~*'()".toList.contains c ||
    (verbatim && [',', '[', ']'].contains c)

/-- The text of a tag with its percent escapes read as bytes. The bound is the number of
characters. -/
def unescapeTag : Nat → List Char → Option (List UInt8)
  | 0, _ => some []
  | _ + 1, [] => some []
  | fuel + 1, '%' :: high :: low :: rest => do
    let byte := UInt8.ofNat ((← Text.hexValue? high) * 16 + (← Text.hexValue? low))
    return byte :: (← unescapeTag fuel rest)
  | fuel + 1, c :: rest =>
    if c = '%' then none else (unescapeTag fuel rest).map (Text.encodeChar c ++ ·)

/-- The text of a tag behind `head`, together with it. It must not be empty. -/
def readTagText (verbatim : Bool) (head : List Char) (place : Place) :
    Option (List Char × Place) := do
  let (run, place) := place.span (isTagChar verbatim)
  let text ← Text.decode? (← unescapeTag run.length run)
  if head.isEmpty && run.isEmpty then none else return (head.drop 1 ++ text.toList, place)

def readTagDirective (place : Place) : Option (Token × Place) := do
  let (handle, place) ← readHandle true (place.skip isBlank)
  if place.chars.head?.any isBlank then
    let (text, place) ← readTagText true [] (place.skip isBlank)
    if isBlankOrEnd place.chars then
      return (.tagDirective (String.ofList handle) (String.ofList text), place)
    else none
  else none

/-- A directive whose mark was passed, with the rest of its line. -/
def readDirective (place : Place) : Option (Token × Place) := do
  let (name, place) := place.span isNameChar
  let (token, place) ←
    if !isBlankOrEnd place.chars then none
    else if name = ['Y', 'A', 'M', 'L'] then readVersion place
    else if name = ['T', 'A', 'G'] then readTagDirective place
    else none
  let place := (place.skip isBlank).skipComment
  if isLineEnd place.chars then return (token, place.skipLine) else none

/-! ### Anchors and tags -/

/-- A name whose mark was passed. -/
def readName (place : Place) : Option (String × Place) :=
  let (name, place) := place.span isNameChar
  let ends := isBlankOrEnd place.chars ||
    place.chars.head?.any ['?', ':', ',', ']', '}', '%', '@', '\x60'].contains
  if name.isEmpty || !ends then none else some (String.ofList name, place)

/-- A tag in angle brackets whose opening bracket was passed. -/
def readVerbatimTag (place : Place) : Option (Token × Place) := do
  let (text, place) ← readTagText true [] place
  match place.chars with
  | '>' :: _ => return (.tag "" (String.ofList text), place.advance 1)
  | _ => none

/-- A tag with a handle, or the text of one for the handle `!`. A lone exclamation mark needs no
expansion. -/
def readShortTag (place : Place) : Option (Token × Place) := do
  let (handle, place) ← readHandle false place
  if 1 < handle.length && handle.getLast? = some '!' then
    let (text, place) ← readTagText false [] place
    return (.tag (String.ofList handle) (String.ofList text), place)
  else
    let (text, place) ← readTagText false handle place
    if text.isEmpty then return (.tag "" "!", place)
    else return (.tag "!" (String.ofList text), place)

def readTag (inFlow : Bool) (place : Place) : Option (Token × Place) := do
  let (token, place) ← match place.chars with
    | '!' :: '<' :: _ => readVerbatimTag (place.advance 2)
    | _ => readShortTag place
  if isBlankOrEnd place.chars || (inFlow && place.chars.head? = some ',') then return (token, place)
  else none

/-! ### Tokens -/

/-- A token of `count` characters that ends all block collections. -/
def documentMark (scan : Scan) (count : Nat) (token : Token) : Option Scan := do
  let scan ← (scan.unrollTo (-1)).removeKey
  return scan.pass count false token

def openFlow (scan : Scan) (token : Token) : Option Scan := do
  let scan ← scan.saveKey
  return { scan.pass 1 true token with
    flowLevel := scan.flowLevel + 1, keys := none :: scan.keys }

def closeFlow (scan : Scan) (token : Token) : Option Scan := do
  let scan ← scan.removeKey
  let scan := if scan.inFlow then
      { scan with flowLevel := scan.flowLevel - 1, keys := scan.keys.drop 1 }
    else scan
  return scan.pass 1 false token

def flowEntry (scan : Scan) : Option Scan := do
  let scan ← scan.removeKey
  return scan.pass 1 true .flowEntry

def blockEntry (scan : Scan) : Option Scan := do
  if !scan.inFlow && !scan.keyAllowed then none
  else
    let scan ← (scan.rollHere .blockSequenceStart).removeKey
    return scan.pass 1 true .blockEntry

def keyEntry (scan : Scan) : Option Scan := do
  if !scan.inFlow && !scan.keyAllowed then none
  else
    let scan ← (scan.rollHere .blockMappingStart).removeKey
    return scan.pass 1 (!scan.inFlow) .key

def valueEntry (scan : Scan) : Option Scan :=
  match scan.keys with
  | some mark :: rest =>
    let scan := { scan with
      tokens := scan.tokens.insertIdxIfInBounds mark.position .key, keys := none :: rest }
    some ((scan.roll mark.place.column mark.position .blockMappingStart).pass 1 false .value)
  | _ =>
    if !scan.inFlow && !scan.keyAllowed then none
    else some ((scan.rollHere .blockMappingStart).pass 1 (!scan.inFlow) .value)

/-- A token that may be a key. -/
def keyToken (scan : Scan) (read : Option (Token × Place)) : Option Scan := do
  let scan ← scan.saveKey
  let (token, place) ← read
  return scan.goTo place false token

def plainScalar (scan : Scan) : Option Scan := do
  let scan ← scan.saveKey
  let (text, broken, place) ←
    readPlain scan.inFlow (scan.indent + 1).toNat (scan.place.chars.length + 1) [] .none scan.place
  return scan.goTo place broken (.scalar (String.ofList text) true)

def quotedScalar (scan : Scan) (single : Bool) : Option Scan :=
  scan.keyToken do
    let (text, place) ←
      readQuoted single (scan.place.chars.length + 1) [] (scan.place.advance 1)
    return (.scalar (String.ofList text) false, place)

def blockScalar (scan : Scan) (literal : Bool) : Option Scan := do
  let scan ← scan.removeKey
  let (text, place) ← readBlock literal scan.indent (scan.place.advance 1)
  return scan.goTo place true (.scalar (String.ofList text) false)

/-- The end of the text. -/
def finish (scan : Scan) : Option Scan := do
  let scan ← (scan.unrollTo (-1)).removeKey
  return scan.emit .streamEnd

/-- The token that begins with the character `c`. -/
def tokenAt (scan : Scan) (c : Char) (rest : List Char) : Option Scan :=
  let place := scan.place
  let apart := isBlankOrEnd rest
  if place.column = 0 && c = '%' then do
    let scan ← (scan.unrollTo (-1)).removeKey
    let (token, place) ← readDirective (place.advance 1)
    return scan.goTo place false token
  else if place.atDocumentMark then
    scan.documentMark 3 (if c = '-' then .documentStart else .documentEnd)
  else if c = '[' then scan.openFlow .flowSequenceStart
  else if c = '{' then scan.openFlow .flowMappingStart
  else if c = ']' then scan.closeFlow .flowSequenceEnd
  else if c = '}' then scan.closeFlow .flowMappingEnd
  else if c = ',' then scan.flowEntry
  else if c = '-' && apart then scan.blockEntry
  else if c = '?' && (scan.inFlow || apart) then scan.keyEntry
  else if c = ':' && (scan.inFlow || apart) then scan.valueEntry
  else if c = '*' then scan.keyToken do
    let (name, place) ← readName (place.advance 1)
    return (.alias name, place)
  else if c = '&' then scan.keyToken do
    let (name, place) ← readName (place.advance 1)
    return (.anchor name, place)
  else if c = '!' then scan.keyToken (readTag scan.inFlow place)
  else if c = '|' && !scan.inFlow then scan.blockScalar true
  else if c = '>' && !scan.inFlow then scan.blockScalar false
  else if c = '\'' then scan.quotedScalar true
  else if c = '"' then scan.quotedScalar false
  else if [',', '#', '|', '>', '%', '@', '\x60'].contains c then none
  else if isBlank c || isBreak c then none
  else scan.plainScalar

/-- The tokens from a place on. -/
def run : Nat → Scan → Option (Array Token)
  | 0, _ => none
  | fuel + 1, scan => do
    let scan ← (skipToToken (scan.place.chars.length + 1) scan).dropStale
    let scan := scan.unrollTo scan.place.column
    match scan.place.chars with
    | [] => return (← scan.finish).tokens
    | c :: rest => run fuel (← scan.tokenAt c rest)

end Scan

/-- The tokens of a text. -/
def tokens? (text : String) : Option (List Token) := do
  let chars := text.toList
  if chars.all isAllowed then
    return (← Scan.run (chars.length + 2) (Scan.start chars)).toList
  else none

end Fingerprint.Yaml
