import Fingerprint.Decimal.Double
import Fingerprint.Script.NameChar
import Fingerprint.Script.Syntax
import Fingerprint.Text.Utf8

/-!
Reading the words of a script.

A word is read from a position in the characters of the script. Whether a slash begins a regular
expression, and whether a closing brace goes on with a template, is known only to who reads the
syntax; both are read by functions of their own.
-/

namespace Fingerprint.Script

/-- A word of a script. -/
inductive Token where
  | stop
  /-- A name or keyword; a keyword with an escape in it is neither. -/
  | name (name : String) (escaped : Bool)
  | hiddenName (name : String)
  | sign (text : String)
  | number (value : Float)
  | bigInt (value : Nat)
  | text (value : Units)
deriving Inhabited

/-- A word with its place. -/
structure Lexeme where
  token : Token
  start : Nat
  stop : Nat
  /-- Whether a line ends between the word and the one before it. -/
  afterLine : Bool
  /-- Why strict code refuses the word, if it does. -/
  strictFault : Option String
deriving Inhabited

/-- The characters of a script. -/
abbrev Source := Array Char

/-- Why a script cannot be read. -/
structure SyntaxFault where
  message : String
deriving Inhabited

namespace Lexer

abbrev Reading := Except SyntaxFault

def fail {α : Type} (message : String) : Reading α := .error ⟨message⟩

def endsLine (c : Char) : Bool := c = '\n' || c = '\r' || c = '\u2028' || c = '\u2029'

def isSpace (c : Char) : Bool := c.toNat < 0x10000 && Units.isSpace c.toNat.toUInt16 && !endsLine c

/-- Whether a text stands at a position. -/
def standsAt (source : Source) (position : Nat) (text : List Char) : Bool :=
  match text with
  | [] => true
  | c :: rest => source[position]? == some c && standsAt source (position + 1) rest

/-- The position of the end of the line. -/
def lineEnd (source : Source) : Nat → Nat → Nat
  | 0, position => position
  | fuel + 1, position =>
    match source[position]? with
    | none => position
    | some c => if endsLine c then position else lineEnd source fuel (position + 1)

/-- The position behind a comment that has been opened, and whether a line ends in it. -/
def commentEnd (source : Source) : Nat → Nat → Bool → Reading (Nat × Bool)
  | 0, _, _ => fail "unexpected end of comment"
  | fuel + 1, position, line =>
    match source[position]? with
    | none => fail "unexpected end of comment"
    | some c =>
      if c = '*' && source[position + 1]? == some '/' then .ok (position + 2, line)
      else commentEnd source fuel (position + 1) (line || endsLine c)

/-- Passes over white space and comments. -/
def skipBlank (source : Source) : Nat → Nat → Bool → Reading (Nat × Bool)
  | 0, position, line => .ok (position, line)
  | fuel + 1, position, line =>
    match source[position]? with
    | none => .ok (position, line)
    | some c =>
      if endsLine c then skipBlank source fuel (position + 1) true
      else if isSpace c then skipBlank source fuel (position + 1) line
      else if standsAt source position ['/', '/'] ||
          standsAt source position ['<', '!', '-', '-'] ||
          (line && standsAt source position ['-', '-', '>']) ||
          (position = 0 && standsAt source position ['#', '!']) then
        skipBlank source fuel (lineEnd source (source.size + 1) position) line
      else if standsAt source position ['/', '*'] then do
        let (position, line) ← commentEnd source source.size (position + 2) line
        skipBlank source fuel position line
      else .ok (position, line)

/-! ### Numbers -/

def digitValue? (radix : Nat) (c : Char) : Option Nat :=
  (Text.hexValue? c).filter (· < radix)

/-- The digits from a position on, with a value; separators stand between digits only. -/
structure Digits where
  value : Nat
  count : Nat
  stop : Nat

def digits (source : Source) (radix : Nat) : Nat → Digits → Reading Digits
  | 0, digits => .ok digits
  | fuel + 1, found =>
    match source[found.stop]? with
    | none => .ok found
    | some '_' =>
      match (source[found.stop + 1]?).bind (digitValue? radix) with
      | some _ =>
        if found.count = 0 then fail "invalid number literal"
        else digits source radix fuel { found with stop := found.stop + 1 }
      | none => fail "invalid number literal"
    | some c =>
      match digitValue? radix c with
      | some value =>
        digits source radix fuel ⟨found.value * radix + value, found.count + 1, found.stop + 1⟩
      | none => .ok found

def digitsFrom (source : Source) (radix position : Nat) : Reading Digits :=
  digits source radix (source.size + 1) ⟨0, 0, position⟩

/-- The exponent of a decimal number, if there is one. -/
def exponent (source : Source) (position : Nat) : Reading (Int × Nat) := do
  match source[position]? with
  | some 'e' | some 'E' =>
    let (sign, start) := match source[position + 1]? with
      | some '-' => ((-1 : Int), position + 2)
      | some '+' => (1, position + 2)
      | _ => (1, position + 1)
    let found ← digitsFrom source 10 start
    if found.count = 0 then fail "invalid number literal"
    else return (sign * found.value, found.stop)
  | _ => return (0, position)

def octalNumberFault : String := "Octal literals are not allowed in strict mode"

def radixNumber (source : Source) (radix position : Nat) : Reading (Token × Nat) := do
  let found ← digitsFrom source radix position
  if found.count = 0 then fail "invalid number literal"
  else if source[found.stop]? == some 'n' then return (.bigInt found.value, found.stop + 1)
  else return (.number (Float.ofNat found.value), found.stop)

/-- The fraction and exponent behind the whole part of a decimal number. -/
def decimalRest (source : Source) (whole : Digits) : Reading (Token × Nat) := do
  let fraction ← if source[whole.stop]? == some '.' then
      if source[whole.stop + 1]? == some '_' then fail "invalid number literal"
      else digits source 10 (source.size + 1) ⟨whole.value, 0, whole.stop + 1⟩
    else pure ⟨whole.value, 0, whole.stop⟩
  let (exponent, stop) ← exponent source fraction.stop
  return (.number (Decimal.nearest fraction.value (exponent - fraction.count)), stop)

/-- A decimal number, which begins with a digit or a point. -/
def decimalNumber (source : Source) (position : Nat) : Reading (Token × Nat) := do
  let whole ← digitsFrom source 10 position
  if source[whole.stop]? == some 'n' then return (.bigInt whole.value, whole.stop + 1)
  else decimalRest source whole

/-- A number with a zero at its front: an octal one if it has no greater digits. -/
def zeroNumber (source : Source) (position : Nat) : Reading (Token × Nat) := do
  let octal ← digitsFrom source 8 position
  let whole ← digitsFrom source 10 position
  if octal.stop = whole.stop then return (.number (Float.ofNat octal.value), octal.stop)
  else decimalRest source whole

/-- A number, and whether strict code refuses it. -/
def number (source : Source) (position : Nat) : Reading (Token × Nat × Option String) := do
  let isOld := source[position]? == some '0' && (source[position + 1]?).any Char.isDigit
  let (token, stop) ← match source[position]?, source[position + 1]? with
    | some '0', some 'x' | some '0', some 'X' => radixNumber source 16 (position + 2)
    | some '0', some 'o' | some '0', some 'O' => radixNumber source 8 (position + 2)
    | some '0', some 'b' | some '0', some 'B' => radixNumber source 2 (position + 2)
    | _, _ => if isOld then zeroNumber source position else decimalNumber source position
  let found := (token, stop, if isOld then some octalNumberFault else none)
  match source[stop]? with
  | some c =>
    if !isOld && (NameChar.starts c || c.isDigit) then fail "invalid number literal"
    else return found
  | none => return found

/-! ### Escapes -/

/-- The hexadecimal number of this many digits. -/
def hexDigits (source : Source) (position : Nat) : Nat → Nat → Option Nat
  | 0, value => some value
  | count + 1, value => do
    let digit ← Text.hexValue? (← source[position]?)
    hexDigits source (position + 1) count (value * 16 + digit)

/-- The code of an escape behind its `u`. -/
def unicodeEscape? (source : Source) (position : Nat) : Option (Nat × Nat) :=
  if source[position]? == some '\x7b' then
    match digitsFrom source 16 (position + 1) with
    | .ok found =>
      if 0 < found.count && found.value ≤ 0x10FFFF && source[found.stop]? == some '\x7d' then
        some (found.value, found.stop + 1)
      else none
    | .error _ => none
  else (hexDigits source position 4 0).map (·, position + 4)

/-- What an escape denotes: units, or none if it is malformed. -/
structure Escaped where
  units : Option Units
  strictFault : Option String
  stop : Nat

def octalEscapeFault : String := "Octal escape sequences are not allowed in strict mode"

def digitEscapeFault : String := "\\8 and \\9 are not allowed in strict mode"

def isOctal (c : Char) : Bool := '0' ≤ c && c ≤ '7'

/-- An escape by up to three octal digits, whose code is below 256. -/
def octalEscape (source : Source) (position : Nat) : Escaped :=
  let digit (place : Nat) : Option Nat := (source[place]?).bind (digitValue? 8)
  let first := (digit position).getD 0
  match digit (position + 1) with
  | none => ⟨some (Units.ofCode first), some octalEscapeFault, position + 1⟩
  | some second =>
    let value := first * 8 + second
    match if value < 32 then digit (position + 2) else none with
    | some third => ⟨some (Units.ofCode (value * 8 + third)), some octalEscapeFault, position + 3⟩
    | none => ⟨some (Units.ofCode value), some octalEscapeFault, position + 2⟩

/-- Reads an escape behind its backslash. -/
def escape (source : Source) (position : Nat) : Escaped :=
  let plain (code : Nat) : Escaped := ⟨some (Units.ofCode code), none, position + 1⟩
  match source[position]? with
  | none => ⟨none, none, position⟩
  | some 'n' => plain 10
  | some 't' => plain 9
  | some 'r' => plain 13
  | some 'b' => plain 8
  | some 'v' => plain 11
  | some 'f' => plain 12
  | some '\r' =>
    ⟨some .empty, none, if source[position + 1]? == some '\n' then position + 2 else position + 1⟩
  | some 'x' =>
    match hexDigits source (position + 1) 2 0 with
    | some code => ⟨some (Units.ofCode code), none, position + 3⟩
    | none => ⟨none, none, position + 1⟩
  | some 'u' =>
    match unicodeEscape? source (position + 1) with
    | some (code, stop) => ⟨some (Units.ofCode code), none, stop⟩
    | none => ⟨none, none, position + 1⟩
  | some c =>
    if endsLine c then ⟨some .empty, none, position + 1⟩
    else if c = '0' && !(source[position + 1]?).any Char.isDigit then plain 0
    else if isOctal c then octalEscape source position
    else if c.isDigit then ⟨some (Units.ofChar c), some digitEscapeFault, position + 1⟩
    else plain c.toNat

/-- What is wrong with a malformed escape, by the character behind its backslash. -/
def escapeFault (source : Source) (position : Nat) : String :=
  if source[position]? == some 'u' then "Invalid Unicode escape sequence"
  else if source[position]? == some 'x' then "Invalid hexadecimal escape sequence"
  else "unexpected end of string"

/-- A text up to its closing quote. -/
def quotedText (source : Source) (quote : Char) : Nat → Nat → Units → Option String →
    Reading (Units × Option String × Nat)
  | 0, _, _, _ => fail "unexpected end of string"
  | fuel + 1, position, units, strictFault =>
    match source[position]? with
    | none => fail "unexpected end of string"
    | some c =>
      if c = quote then .ok (units, strictFault, position + 1)
      else if c = '\n' || c = '\r' then fail "unexpected end of string"
      else if c = '\\' then
        let escaped := escape source (position + 1)
        match escaped.units with
        | some more =>
          quotedText source quote fuel escaped.stop (units ++ more)
            (strictFault.or escaped.strictFault)
        | none => fail (escapeFault source (position + 1))
      else quotedText source quote fuel (position + 1) ⟨Units.pushChar units.data c⟩ strictFault

/-! ### Names and signs -/

/-- The rest of a name; `chars` holds the characters before it, last first. A name ends in front of
an escape of a character that names do not have. -/
def nameRest (source : Source) : Nat → Nat → List Char → Bool → Reading (String × Bool × Nat)
  | 0, position, chars, escaped => .ok (String.ofList chars.reverse, escaped, position)
  | fuel + 1, position, chars, escaped =>
    let isPart (c : Char) : Bool :=
      if chars.isEmpty then NameChar.starts c else NameChar.continues c
    match source[position]? with
    | some '\\' =>
      match source[position + 1]?, unicodeEscape? source (position + 2) with
      | some 'u', some (code, stop) =>
        if isPart (Char.ofNat code) then nameRest source fuel stop (Char.ofNat code :: chars) true
        else .ok (String.ofList chars.reverse, escaped, position)
      | _, _ => .ok (String.ofList chars.reverse, escaped, position)
    | some c =>
      if isPart c then nameRest source fuel (position + 1) (c :: chars) escaped
      else .ok (String.ofList chars.reverse, escaped, position)
    | none => .ok (String.ofList chars.reverse, escaped, position)

/-- Whether an escape that begins a name stands at a position. -/
def startsEscapedName (source : Source) (position : Nat) : Bool :=
  source[position]? == some '\\' && source[position + 1]? == some 'u' &&
    (unicodeEscape? source (position + 2)).any fun (code, _) => NameChar.starts (Char.ofNat code)

def nameAt (source : Source) (position : Nat) : Reading (String × Bool × Nat) :=
  nameRest source (source.size + 1) position [] false

/-- The signs of more than one character, the longest ones first. -/
def longSigns : List (List Char) :=
  [">>>=", "...", "===", "!==", "**=", "<<=", ">>=", ">>>", "&&=", "||=", "??=", "=>", "==", "!=",
    "<=", ">=", "&&", "||", "??", "?.", "++", "--", "+=", "-=", "*=", "/=", "%=", "&=", "|=", "^=",
    "<<", ">>", "**"].map (·.toList)

def shortSigns : List Char := "\x7b\x7d()[];,<>+-*/%&|^!~?:=.@#\x60".toList

def sign? (source : Source) (position : Nat) : Option (List Char) :=
  let long := longSigns.find? fun text => standsAt source position text &&
    !(text = ['?', '.'] && (source[position + 2]?).any Char.isDigit)
  long.or ((source[position]?).bind fun c => if shortSigns.contains c then some [c] else none)

/-- Reads the word at a position that no white space stands at. -/
def tokenAt (source : Source) (position : Nat) : Reading (Token × Nat × Option String) := do
  match source[position]? with
  | none => return (.stop, position, none)
  | some c =>
    if c = '"' || c = '\'' then
      let (units, strictFault, stop) ←
        quotedText source c (source.size + 1) (position + 1) .empty none
      return (.text units, stop, strictFault)
    else if c.isDigit || (c = '.' && (source[position + 1]?).any Char.isDigit) then
      number source position
    else if NameChar.starts c || startsEscapedName source position then
      let (name, escaped, stop) ← nameAt source position
      return (.name name escaped, stop, none)
    else if c = '#' then
      if (source[position + 1]?).any NameChar.starts || startsEscapedName source (position + 1) then
        let (name, _, stop) ← nameAt source (position + 1)
        return (.hiddenName name, stop, none)
      else fail "invalid first character of private name"
    else if 0x80 ≤ c.toNat then fail "unexpected character"
    else
      match sign? source position with
      | some text => return (.sign (String.ofList text), position + text.length, none)
      | none => return (.sign (String.singleton c), position + 1, none)

/-- Reads the next word from a position on. -/
def next (source : Source) (position : Nat) : Reading Lexeme := do
  let (start, line) ← skipBlank source (source.size + 1) position (position = 0)
  let (token, stop, strictFault) ← tokenAt source start
  return ⟨token, start, stop, line, strictFault⟩

/-- Whether the arrow of a function is the next word, on the same line. -/
def standsArrow (source : Source) (position : Nat) : Bool :=
  match skipBlank source (source.size + 1) position false with
  | .ok (position, line) => !line && standsAt source position ['=', '>']
  | .error _ => false

/-! ### Templates and regular expressions -/

/-- A piece of a template: its text, unless an escape in it is not allowed for some reason, the text
as written, and whether a value follows. -/
structure Piece where
  cooked : Option Units
  fault : Option String
  raw : Units
  continues : Bool
  stop : Nat

/-- Carriage returns count as line feeds. -/
def rawUnits (source : Source) (first last : Nat) : Units :=
  let chars := (source.extract first last).toList
  let rec lines : List Char → List Char
    | '\r' :: '\n' :: rest => '\n' :: lines rest
    | '\r' :: rest => '\n' :: lines rest
    | c :: rest => c :: lines rest
    | [] => []
  Units.ofList (lines chars)

def templatePiece (source : Source) (first : Nat) : Nat → Nat → Option Units → Option String →
    Reading Piece
  | 0, _, _, _ => fail "unexpected end of string"
  | fuel + 1, position, cooked, fault =>
    match source[position]? with
    | none => fail "unexpected end of string"
    | some '\x60' => .ok ⟨cooked, fault, rawUnits source first position, false, position + 1⟩
    | some '\\' =>
      let escaped := escape source (position + 1)
      let found : Except String Units := match escaped.strictFault, escaped.units with
        | some _, _ => .error "Octal escape sequences are not allowed in template strings"
        | none, some more => .ok more
        | none, none => .error (escapeFault source (position + 1))
      match found with
      | .ok more =>
        templatePiece source first fuel (max escaped.stop (position + 2))
          (cooked.map (· ++ more)) fault
      | .error reason =>
        templatePiece source first fuel (position + 2) none (fault.or (some reason))
    | some '\r' =>
      let stop := if source[position + 1]? == some '\n' then position + 2 else position + 1
      templatePiece source first fuel stop (cooked.map (· ++ Units.ofCode 10)) fault
    | some c =>
      if c = '$' && source[position + 1]? == some '\x7b' then
        .ok ⟨cooked, fault, rawUnits source first position, true, position + 2⟩
      else templatePiece source first fuel (position + 1) (cooked.map fun units =>
        ⟨Units.pushChar units.data c⟩) fault

/-- Reads a piece of a template behind its opening sign. -/
def template (source : Source) (position : Nat) : Reading Piece :=
  templatePiece source position (source.size + 1) position (some .empty) none

/-- The position of the slash that closes a regular expression. -/
def regexEnd (source : Source) : Nat → Nat → Bool → Reading Nat
  | 0, _, _ => fail "unexpected end of regexp"
  | fuel + 1, position, inClass =>
    match source[position]? with
    | none => fail "unexpected end of regexp"
    | some c =>
      if endsLine c then fail "unexpected line terminator in regexp"
      else if c = '\\' then
        if (source[position + 1]?).any endsLine then fail "unexpected line terminator in regexp"
        else regexEnd source fuel (position + 2) inClass
      else if c = '[' then regexEnd source fuel (position + 1) true
      else if c = ']' then regexEnd source fuel (position + 1) false
      else if c = '/' && !inClass then .ok position
      else regexEnd source fuel (position + 1) inClass

/-- The position behind the flags of a regular expression. -/
def flagsEnd (source : Source) : Nat → Nat → Nat
  | 0, position => position
  | fuel + 1, position =>
    if (source[position]?).any NameChar.continues then flagsEnd source fuel (position + 1)
    else position

/-- Reads a regular expression behind its opening slash: its body, its flags and its end. -/
def regex (source : Source) (position : Nat) : Reading (Units × Units × Nat) := do
  let stop ← regexEnd source (source.size + 1) position false
  let last := flagsEnd source (source.size + 1) (stop + 1)
  return (Units.ofList (source.extract position stop).toList,
    Units.ofList (source.extract (stop + 1) last).toList, last)

/-! ### Groups -/

/-- What a look past a group in brackets finds: the word behind it, unless there is no end to it,
and what stands in the group itself outside the groups in it. -/
structure Group where
  next : Option Lexeme
  hasRest : Bool
  hasSemicolon : Bool

/-- The largest number of groups within each other that are looked past. -/
def groupDepth : Nat := 255

/-- Whether a word ends an operand, so that a slash behind it divides. -/
def endsOperand (isReserved : String → Bool) : Token → Bool
  | .number _ | .bigInt _ | .text _ => true
  | .name name escaped =>
    if isReserved name && !escaped then ["null", "false", "true", "this"].contains name
    else name != "of" && name != "yield"
  | .sign text => [")", "]", "\x7d", "++", "--"].contains text
  | _ => false

/-- Where to go on behind a word in a group, what is open there and whether an operand has ended;
`none` if the group cannot be looked past. -/
def groupStep (isReserved : String → Bool) (source : Source) (lexeme : Lexeme) (opened : List Char)
    (behindOperand : Bool) : Option (Nat × List Char × Bool) :=
  let usual := some (lexeme.stop, opened, endsOperand isReserved lexeme.token)
  let piece (opened : List Char) : Option (Nat × List Char × Bool) :=
    match template source (lexeme.start + 1) with
    | .ok piece => some (piece.stop, if piece.continues then '\x60' :: opened else opened, false)
    | .error _ => none
  match lexeme.token with
  | .stop => none
  | .sign text =>
    match text, opened with
    | "(", opened => some (lexeme.stop, '(' :: opened, false)
    | "[", opened => some (lexeme.stop, '[' :: opened, false)
    | "\x7b", opened => some (lexeme.stop, '\x7b' :: opened, false)
    | ")", '(' :: rest | "]", '[' :: rest | "\x7d", '\x7b' :: rest => some (lexeme.stop, rest, true)
    | "\x7d", '\x60' :: rest => piece rest
    | ")", _ | "]", _ | "\x7d", _ => none
    | "\x60", opened => piece opened
    | "/", _ | "/=", _ =>
      if behindOperand then usual
      else
        match regex source (lexeme.start + 1) with
        | .ok (_, _, stop) => some (stop, opened, true)
        | .error _ => none
    | _, _ => usual
  | _ => usual

def groupFrom (isReserved : String → Bool) (source : Source) :
    Nat → Lexeme → List Char → Bool → Group → Group
  | 0, _, _, _, group => group
  | fuel + 1, lexeme, opened, behindOperand, group =>
    let isOwn := opened.length = 1
    let group := match lexeme.token with
      | .sign "..." => { group with hasRest := group.hasRest || isOwn }
      | .sign ";" => { group with hasSemicolon := group.hasSemicolon || isOwn }
      | _ => group
    match groupStep isReserved source lexeme opened behindOperand with
    | none => group
    | some (position, opened, behindOperand) =>
      match next source position with
      | .error _ => group
      | .ok following =>
        if opened.isEmpty then { group with next := some following }
        else if groupDepth < opened.length then group
        else groupFrom isReserved source fuel following opened behindOperand group

/-- Looks past the group whose opening bracket is a word. -/
def group (isReserved : String → Bool) (source : Source) (lexeme : Lexeme) : Group :=
  groupFrom isReserved source (source.size + 1) lexeme [] false ⟨none, false, false⟩

end Lexer

end Fingerprint.Script
