import Fingerprint.Script.Number

/-!
Reading JSON texts into trees.

A text is read word by word, with the current word known before it is decided what to do with it. A
word is read from a position in the text.
-/

namespace Fingerprint.Script

/-- What a JSON text says. -/
inductive JsonTree where
  | null
  | bool (value : Bool)
  | number (value : Float)
  | text (value : Units)
  | array (items : List JsonTree)
  /-- The members by their keys, which stand in the same order as the items. -/
  | object (keys : List Units) (items : List JsonTree)
deriving Inhabited

/-- Why a JSON text is refused. -/
inductive JsonFault where
  | general (message : String)
  /-- A fault that is told together with its position. -/
  | placed (message : String) (position : Nat)

namespace JsonFault

/-- The number of bytes between two positions. -/
def bytesBetween (text : Units) (first last : Nat) : Nat :=
  ((text.slice first last).codes.map Units.byteCount).foldr (· + ·) 0

/-- The line of a position, counted from 1, and where it begins. The unit behind the end of a line
does not end the next one. -/
def lineOf (text : Units) (stop position line start : Nat) : Nat × Nat :=
  if position < stop then
    let unit := text.get? position
    if unit == some 13 && text.get? (position + 1) == some 10 then
      lineOf text stop (position + 3) (line + 1) (position + 2)
    else if unit == some 13 || unit == some 10 then
      lineOf text stop (position + 2) (line + 1) (position + 1)
    else lineOf text stop (position + 1) line start
  else (line, start)
termination_by stop - position

/-- What is said about a fault. Positions and columns count bytes, and the first two columns of a
line other than the first are not told apart. -/
def message (text : Units) : JsonFault → String
  | .general message => message
  | .placed message position =>
    let (line, start) := lineOf text position 0 1 0
    let skipped := max (bytesBetween text start position) (if line = 1 then 0 else 1)
    message ++ " in JSON at position " ++ toString (bytesBetween text 0 position) ++ " (line " ++
      toString line ++ " column " ++ toString (skipped + 1) ++ ")"

end JsonFault

/-- A word of a JSON text. -/
inductive JsonToken where
  | stop
  | text (value : Units)
  | number (value : Float)
  | name (name : Units)
  | sign (unit : UInt16)
deriving Inhabited

/-- A word with its place. -/
structure JsonLexeme where
  token : JsonToken
  start : Nat
  stop : Nat
deriving Inhabited

namespace JsonLexeme

abbrev Reading := Except JsonFault

def placed {α : Type} (message : String) (position : Nat) : Reading α :=
  .error (.placed message position)

/-- The position behind the units of a class from a position on. -/
def skipWhile (isMember : UInt16 → Bool) (text : Units) (position : Nat) : Nat :=
  match h : text.data[position]? with
  | some unit => if isMember unit then skipWhile isMember text (position + 1) else position
  | none => position
termination_by text.data.size - position
decreasing_by
  have := (Array.getElem?_eq_some_iff.1 h).1
  omega

def isBlank (unit : UInt16) : Bool := unit = 0x20 || unit = 0x0A || unit = 0x0D || unit = 0x09

def isDigit (unit : UInt16) : Bool := 0x30 ≤ unit && unit ≤ 0x39

def isLetter (unit : UInt16) : Bool :=
  (0x41 ≤ unit && unit ≤ 0x5A) || (0x61 ≤ unit && unit ≤ 0x7A) || unit = 0x5F || unit = 0x24

/-- Whether a unit of a class stands at a position. -/
def standsAt (isMember : UInt16 → Bool) (text : Units) (position : Nat) : Bool :=
  (text.get? position).any isMember

def isOneOf (chars : List Char) (unit : UInt16) : Bool :=
  chars.any fun c => unit.toNat = c.toNat

/-- The position behind a fraction, if there is one. -/
def fractionEnd (text : Units) (position : Nat) : Reading Nat :=
  if standsAt (isOneOf ['.']) text position then
    if standsAt isDigit text (position + 1) then .ok (skipWhile isDigit text (position + 1))
    else placed "Unterminated fractional number" (position + 1)
  else .ok position

/-- The position behind an exponent, if there is one. -/
def exponentEnd (text : Units) (position : Nat) : Reading Nat :=
  if standsAt (isOneOf ['e', 'E']) text position then
    let signed := standsAt (isOneOf ['+', '-']) text (position + 1)
    let first := if signed then position + 2 else position + 1
    if standsAt isDigit text first then .ok (skipWhile isDigit text first)
    else placed "Exponent part is missing a number" first
  else .ok position

/-- The number at a position. -/
def number (text : Units) (start : Nat) : Reading JsonLexeme := do
  let isNegative := standsAt (isOneOf ['-']) text start
  let first := if isNegative then start + 1 else start
  unless standsAt isDigit text first do placed "No number after minus sign" start
  if standsAt (isOneOf ['0']) text first && standsAt isDigit text (first + 1) then
    placed "Unexpected number" first
  let stop ← exponentEnd text (← fractionEnd text (skipWhile isDigit text first))
  return ⟨.number (Number.ofUnits (text.slice start stop)), start, stop⟩

/-- The unit that four digits from a position on denote. -/
def hexUnit (text : Units) (position : Nat) : Reading UInt16 := do
  let value ← (List.range 4).foldlM (fun value offset =>
    match (text.get? (position + offset)).bind fun unit =>
      Number.radixDigit? 16 (Char.ofNat unit.toNat) with
    | some digit => pure (value * 16 + digit)
    | none => placed "Bad Unicode escape" (position + offset)) 0
  return value.toUInt16

def unfinished {α : Type} : Reading α := .error (.general "Unexpected end of JSON input")

/-- The unit that is written behind a backslash, and the position behind it. -/
def escape (text : Units) (position : Nat) : Reading (UInt16 × Nat) := do
  match text.get? position with
  | none => unfinished
  | some unit =>
    match Char.ofNat unit.toNat with
    | '"' | '\\' | '/' => return (unit, position + 1)
    | 'b' => return (8, position + 1)
    | 'f' => return (12, position + 1)
    | 'n' => return (10, position + 1)
    | 'r' => return (13, position + 1)
    | 't' => return (9, position + 1)
    | 'u' => return (← hexUnit text (position + 1), position + 5)
    | _ => placed "Bad escaped character" position

/-- The units up to a closing quote, and the position behind it; `fuel` bounds their count. -/
def quoted (text : Units) : Nat → Nat → Array UInt16 → Reading (Units × Nat)
  | 0, _, _ => unfinished
  | fuel + 1, position, found => do
    match text.get? position with
    | none => unfinished
    | some 0x22 => return (⟨found⟩, position + 1)
    | some 0x5C =>
      let (unit, behind) ← escape text (position + 1)
      quoted text fuel behind (found.push unit)
    | some unit =>
      if unit < 0x20 then placed "Bad control character in string literal" position
      else quoted text fuel (position + 1) (found.push unit)

/-- The first word from a position on. -/
def next (text : Units) (position : Nat) : Reading JsonLexeme := do
  let start := skipWhile isBlank text position
  match text.get? start with
  | none => return ⟨.stop, start, start⟩
  | some unit =>
    if unit = 0x22 then
      let (units, stop) ← quoted text (text.length + 1) (start + 1) #[]
      return ⟨.text units, start, stop⟩
    else if isDigit unit || unit = 0x2D then number text start
    else if isLetter unit then
      let stop := skipWhile (fun unit => isLetter unit || isDigit unit) text start
      return ⟨.name (text.slice start stop), start, stop⟩
    else if 0x80 ≤ unit then .error (.general "unexpected character")
    else return ⟨.sign unit, start, start + 1⟩

end JsonLexeme

namespace JsonTree

/-- A text with its current word. -/
structure Cursor where
  text : Units
  current : JsonLexeme

/-- A reader moves from word to word, or says why it cannot go on. -/
abbrev Reader := EStateM JsonFault Cursor

def fail {α : Type} (message : String) : Reader α := throw (.general message)

/-- Refuses the current word. -/
def failHere {α : Type} (message : String) : Reader α := do
  throw (.placed message (← get).current.start)

def advance : Reader Unit := do
  let cursor ← get
  match JsonLexeme.next cursor.text cursor.current.stop with
  | .ok lexeme => set { cursor with current := lexeme }
  | .error fault => throw fault

def isSign (c : Char) : Reader Bool := do
  match (← get).current.token with
  | .sign unit => return unit.toNat = c.toNat
  | _ => return false

def accept (c : Char) : Reader Bool := do
  if ← isSign c then
    advance
    return true
  else return false

/-- The text at the current word, or nothing. -/
def key? : Reader (Option Units) := do
  match (← get).current.token with
  | .text units => return some units
  | _ => return none

/-- Refuses the current word where a value should be. A word ends in messages at a zero. -/
def unexpected {α : Type} : Reader α := do
  match (← get).current.token with
  | .stop => fail "Unexpected end of JSON input"
  | .name name => fail ("unexpected token: '" ++ name.toText ++ "'")
  | .sign 0 => fail "unexpected token: ''"
  | .sign unit => fail ("unexpected token: '" ++ (Units.mk #[unit]).toText ++ "'")
  | .text _ | .number _ => fail "unexpected token"

/-- A value that is a single word. -/
def simple : Reader JsonTree := do
  match (← get).current.token with
  | .text units => return .text units
  | .number value => return .number value
  | .name name =>
    match name.toText with
    | "true" => return .bool true
    | "false" => return .bool false
    | "null" => return .null
    | _ => unexpected
  | _ => unexpected

mutual

/-- A value; `depth` bounds values within each other. -/
def value : Nat → Reader JsonTree
  | 0 => fail "stack overflow"
  | depth + 1 => do
    let length := (← get).text.length
    if ← accept '\x7b' then
      if ← accept '\x7d' then return .object [] []
      if (← key?).isNone then failHere "Expected property name or '\x7d'"
      members depth length [] []
    else if ← accept '[' then
      if ← accept ']' then return .array []
      items depth length []
    else
      let tree ← simple
      advance
      return tree
termination_by depth => (depth, 0)

def items : Nat → Nat → List JsonTree → Reader JsonTree
  | _, 0, _ => unexpected
  | depth, fuel + 1, found => do
    let found := (← value depth) :: found
    if ← accept ']' then return .array found.reverse
    unless ← accept ',' do failHere "Expected ',' or ']' after array element"
    items depth fuel found
termination_by depth fuel => (depth, fuel + 1)

def members : Nat → Nat → List Units → List JsonTree → Reader JsonTree
  | _, 0, _, _ => unexpected
  | depth, fuel + 1, keys, found => do
    match ← key? with
    | none => failHere "Expected double-quoted property name"
    | some key =>
      advance
      unless ← accept ':' do failHere "Expected ':' after property name"
      let found := (← value depth) :: found
      let keys := key :: keys
      if ← accept '\x7d' then return .object keys.reverse found.reverse
      unless ← accept ',' do failHere "Expected ',' or '\x7d' after property value"
      members depth fuel keys found
termination_by depth fuel => (depth, fuel + 1)

end

/-- The bound on values within each other. -/
def depthLimit : Nat := 5000

def whole : Reader JsonTree := do
  advance
  let tree ← value depthLimit
  match (← get).current.token with
  | .stop => return tree
  | _ => fail "unexpected data at the end"

/-- What a text says, or why it is refused. -/
def ofUnits (text : Units) : Except String JsonTree :=
  match whole.run ⟨text, ⟨.stop, 0, 0⟩⟩ with
  | .ok tree _ => .ok tree
  | .error fault _ => .error (fault.message text)

end JsonTree

end Fingerprint.Script
