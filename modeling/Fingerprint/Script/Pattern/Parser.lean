import Fingerprint.Script.NameChar
import Fingerprint.Script.Pattern.Basic
import Fingerprint.Script.Pattern.Property
import Fingerprint.Text.Utf8

/-!
Reading the patterns of scripts.

Without the flag for code points many wrong forms are taken for the characters that they are written
with.
-/

namespace Fingerprint.Script.Pattern

/-- The codes that are left and what is known of the groups so far. -/
structure ReadState where
  rest : List Nat
  groups : Nat
  names : List (String × Nat)

abbrev Reader := EStateM String ReadState

/-- What is known of the whole pattern while it is read. -/
structure Shape where
  unicode : Bool
  /-- The number of codes in the pattern. -/
  size : Nat
  /-- The number of groups in the whole pattern, the whole match included. -/
  groupCount : Nat
  /-- The names of groups in the whole pattern. -/
  names : List String

def codeOf (c : Char) : Nat := c.toNat

def fail {α : Type} (message : String) : Reader α := throw message

/-! ### Single codes -/

def peek : Reader (Option Nat) := return (← get).rest.head?

def skip (count : Nat) : Reader Unit :=
  modify fun state => { state with rest := state.rest.drop count }

def isNext (c : Char) : Reader Bool := return (← get).rest.head? == some (codeOf c)

def accept (c : Char) : Reader Bool := do
  if ← isNext c then skip 1; return true else return false

def acceptText (text : String) : Reader Bool := do
  let codes := text.toList.map codeOf
  if codes.isPrefixOf (← get).rest then skip codes.length; return true else return false

def expect (c : Char) : Reader Unit := do
  unless ← accept c do fail ("expecting '" ++ String.singleton c ++ "'")

def digitsOf : List Nat → List Nat := List.takeWhile ClassItem.isDigit

def valueOf (digits : List Nat) : Nat :=
  digits.foldl (fun value digit => value * 10 + (digit - 0x30)) 0

def hexOf? (codes : List Nat) : Option Nat :=
  codes.foldlM (fun value code => do
    return value * 16 + (← Text.hexValue? (Char.ofNat code))) 0

def isHighCode (code : Nat) : Bool := 0xD800 ≤ code && code ≤ 0xDBFF

def isLowCode (code : Nat) : Bool := 0xDC00 ≤ code && code ≤ 0xDFFF

/-- The four hexadecimal digits at the front of codes. -/
def fourDigits? (codes : List Nat) : Option Nat :=
  if codes.length < 4 then none else hexOf? (codes.take 4)

/-- The code of an escape behind its `u`, with what is behind it; braces and pairs of surrogates
count if `isWide`. -/
def unicodeEscape? (isWide : Bool) (codes : List Nat) : Option (Nat × List Nat) := do
  match isWide, codes with
  | true, 0x7B :: rest =>
    let digits := rest.takeWhile (· ≠ codeOf '\x7d')
    let code ← hexOf? digits
    if digits.isEmpty || 0x10FFFF < code || rest.length ≤ digits.length then none
    else return (code, rest.drop (digits.length + 1))
  | _, codes =>
    let high ← fourDigits? codes
    let rest := codes.drop 4
    match isWide && isHighCode high, rest with
    | true, 0x5C :: 0x75 :: behind =>
      match fourDigits? behind with
      | some low =>
        if isLowCode low then
          return (0x10000 + (high - 0xD800) * 0x400 + (low - 0xDC00), behind.drop 4)
        else return (high, rest)
      | none => return (high, rest)
    | _, _ => return (high, rest)

/-- The number that up to three octal digits write, which is below 256, with what is behind it. -/
def octal (codes : List Nat) : Nat × List Nat :=
  let digits := (codes.take 3).takeWhile fun code => 0x30 ≤ code && code ≤ 0x37
  let digits := if 0x33 < digits.headD 0 then digits.take 2 else digits
  (digits.foldl (fun value digit => value * 8 + (digit - 0x30)) 0, codes.drop digits.length)

/-- The code that an escape behind its backslash denotes, with what is behind it. -/
def escape? (unicode : Bool) : List Nat → Option (Nat × List Nat)
  | [] => none
  | code :: rest =>
    match Char.ofNat code with
    | 'b' => some (8, rest)
    | 'n' => some (10, rest)
    | 't' => some (9, rest)
    | 'r' => some (13, rest)
    | 'v' => some (11, rest)
    | 'f' => some (12, rest)
    | 'x' => do
      if rest.length < 2 then none
      return (← hexOf? (rest.take 2), rest.drop 2)
    | 'u' => unicodeEscape? unicode rest
    | c =>
      if '0' ≤ c && c ≤ '7' then
        if unicode then
          if c = '0' && !(rest.head?.any ClassItem.isDigit) then some (0, rest) else none
        else some (octal (code :: rest))
      else none

/-! ### Groups -/

/-- Passes over a class up to its closing bracket. -/
def behindClass : List Nat → List Nat
  | 0x5C :: _ :: rest => behindClass rest
  | 0x5D :: rest => rest
  | _ :: rest => behindClass rest
  | [] => []

/-- A name up to its closing bracket, with what is behind it; `count` bounds its characters. -/
def groupName? : Nat → List Nat → List Char → Option (String × List Nat)
  | 0, _, _ => none
  | count + 1, codes, found =>
    let take (code : Nat) (rest : List Nat) : Option (String × List Nat) :=
      let c := Char.ofNat code
      if if found.isEmpty then NameChar.starts c else NameChar.continues c then
        groupName? count rest (c :: found)
      else none
    match codes with
    | 0x3E :: rest => if found.isEmpty then none else some (String.ofList found.reverse, rest)
    | 0x5C :: 0x75 :: rest => do
      let (code, rest) ← unicodeEscape? true rest
      take code rest
    | high :: low :: rest =>
      if isHighCode high && isLowCode low then
        take (0x10000 + (high - 0xD800) * 0x400 + (low - 0xDC00)) rest
      else take high (low :: rest)
    | _ => none

/-- The groups that open in a pattern, each with its name if it has one; `count` bounds them. -/
def listGroups : Nat → List Nat → List (Option String)
  | 0, _ => []
  | count + 1, codes =>
    match codes with
    | 0x5C :: _ :: rest => listGroups count rest
    | 0x5B :: 0x5D :: rest => listGroups count (behindClass rest)
    | 0x5B :: rest => listGroups count (behindClass rest)
    | 0x28 :: 0x3F :: 0x3C :: next :: rest =>
      if next = 0x3D || next = 0x21 then listGroups count rest
      else (groupName? (rest.length + 2) (next :: rest) []).map (·.1) ::
        listGroups count (next :: rest)
    | 0x28 :: 0x3F :: rest => listGroups count rest
    | 0x28 :: rest => none :: listGroups count rest
    | _ :: rest => listGroups count rest
    | [] => []

/-- The name of a group up to its closing bracket. -/
def groupName (shape : Shape) : Reader String := do
  match groupName? (shape.size + 1) (← get).rest [] with
  | some (name, rest) =>
    modify fun state => { state with rest := rest }
    return name
  | none => fail "invalid group name"

/-! ### Classes -/

/-- A class that an escape names. -/
def classEscape? (c : Char) : Option ClassItem :=
  match c with
  | 'd' => some (.digit false)
  | 'D' => some (.digit true)
  | 'w' => some (.word false)
  | 'W' => some (.word true)
  | 's' => some (.space false)
  | 'S' => some (.space true)
  | _ => none

def isPropertyCode (code : Nat) : Bool := ClassItem.isWord code

/-- The part of the name of a property at the front. -/
def propertyPart : Reader String := do
  let name := (← get).rest.takeWhile isPropertyCode
  skip name.length
  return String.ofList (name.map Char.ofNat)

/-- The property that an escape names. -/
def propertyEscape (negated : Bool) : Reader ClassItem := do
  unless ← accept '\x7b' do fail "expecting '\x7b' after \\p"
  let name ← propertyPart
  let value ← if ← accept '=' then propertyPart else pure ""
  unless ← accept '\x7d' do fail "expecting '\x7d'"
  match property? name value with
  | .ok points => return .property points.index negated
  | .error message => fail message

def failEscape {α : Type} : Reader α := fail "invalid escape sequence in regular expression"

/-- An item that stands for one code. -/
def singleCode (code : Nat) : ClassItem := .range code code

/-- A letter that gives a control code, behind `\c`. -/
def controlEscape (shape : Shape) (inClass : Bool) : Reader ClassItem := do
  let letter := ((← peek).getD 0)
  let c := Char.ofNat letter
  if c.isAlpha || ((c.isDigit || c = '_') && inClass && !shape.unicode) then
    skip 1
    return singleCode (letter % 32)
  else if shape.unicode then failEscape
  else
    modify fun state => { state with rest := codeOf 'c' :: state.rest }
    return singleCode 0x5C

def syntaxChars : List Char :=
  ['^', '$', '\\', '.', '*', '+', '?', '(', ')', '[', ']', '\x7b', '\x7d', '|', '/']

/-- What an escape behind its backslash stands for. -/
def escapeItem (shape : Shape) (inClass : Bool) : Reader ClassItem := do
  let some code ← peek | fail "unexpected end"
  let c := Char.ofNat code
  match classEscape? c with
  | some item => skip 1; return item
  | none =>
    if c = 'c' then skip 1; controlEscape shape inClass
    else if syntaxChars.contains c then skip 1; return singleCode code
    else if c = '-' && shape.unicode then
      if inClass then skip 1; return singleCode code else failEscape
    else if (c = 'p' || c = 'P') && shape.unicode then skip 1; propertyEscape (c = 'P')
    else
      match escape? shape.unicode (← get).rest with
      | some (code, rest) =>
        modify fun state => { state with rest := rest }
        return singleCode code
      | none =>
        if shape.unicode then failEscape
        else
          skip 1
          return singleCode code

/-- An item of a class: a code or a named class. -/
def classAtom (shape : Shape) (inClass : Bool) : Reader ClassItem := do
  let some code ← peek | fail "unexpected end"
  skip 1
  if code = 0x5C then escapeItem shape inClass else return singleCode code

/-- The items of a class up to its closing bracket. -/
def classItems (shape : Shape) : Nat → List ClassItem → Reader (List ClassItem)
  | 0, _ => fail "unexpected end"
  | fuel + 1, items => do
    if ← accept ']' then return items
    let first ← classAtom shape true
    let rest := (← get).rest
    if rest.head? == some (codeOf '-') && rest[1]? != some (codeOf ']') then
      match first with
      | .range low _ =>
        skip 1
        match ← classAtom shape true with
        | .range high _ =>
          if high < low then fail "invalid class range"
          classItems shape fuel (items ++ [.range low high])
        | last =>
          if shape.unicode then fail "invalid class range"
          classItems shape fuel (items ++ [first, singleCode 0x2D, last])
      | _ =>
        if shape.unicode then fail "invalid class range"
        classItems shape fuel (items ++ [first])
    else classItems shape fuel (items ++ [first])

/-! ### Quantifiers -/

/-- The bounds of a quantifier in braces behind the opening one, with the number of codes that they
take, the closing brace left out. -/
def bounds (rest : List Nat) : Nat × Option Nat × Nat :=
  let low := digitsOf rest
  let behind := rest.drop low.length
  if behind.head? == some (codeOf ',') then
    let high := digitsOf (behind.drop 1)
    (valueOf low, if high.isEmpty then none else some (valueOf high), low.length + high.length + 1)
  else (valueOf low, some (valueOf low), low.length)

/-- Whether codes behind an opening brace are the rest of a quantifier. -/
def isQuantifier (rest : List Nat) : Bool :=
  rest.head?.any ClassItem.isDigit && rest[(bounds rest).2.2]? == some (codeOf '\x7d')

/-- A quantifier in braces, if one stands next. -/
def bracedQuantifier (shape : Shape) : Reader (Option (Nat × Option Nat)) := do
  let rest := (← get).rest.drop 1
  if rest.head?.any ClassItem.isDigit then
    let (least, most, length) := bounds rest
    if most.any (· < least) then fail "invalid repetition count"
    if rest[length]? == some (codeOf '\x7d') then
      skip (length + 2)
      return some (least, most)
    else if shape.unicode then fail "expecting '\x7d'"
    else return none
  else if shape.unicode then fail "invalid repetition count"
  else return none

/-- A quantifier, if one stands next. -/
def quantifier? (shape : Shape) : Reader (Option (Nat × Option Nat)) := do
  if ← accept '*' then return some (0, none)
  else if ← accept '+' then return some (1, none)
  else if ← accept '?' then return some (0, some 1)
  else if ← isNext '\x7b' then bracedQuantifier shape
  else return none

/-- Puts a quantifier to a part, if one stands next. -/
def quantified (shape : Shape) (node : PatternNode) (first : Nat) : Reader PatternNode := do
  match ← quantifier? shape with
  | none => return node
  | some (least, most) =>
    let lazily ← accept '?'
    return .times node least most (!lazily) first (← get).groups

/-! ### Parts -/

/-- The part that an item is outside of classes. -/
def ofItem : ClassItem → PatternNode
  | .range first _ => .code first
  | item => .set false false [item]

/-- A reference by a name, behind `\k`. -/
def namedReference (shape : Shape) : Reader PatternNode := do
  let isLoose := !shape.unicode && shape.names.isEmpty
  let plain : Reader PatternNode := do
    skip 1
    return .code (codeOf 'k')
  let rest := ((← get).rest).drop 1
  match rest with
  | 0x3C :: rest =>
    match groupName? (shape.size + 1) rest [] with
    | some (name, rest) =>
      if shape.names.contains name then
        modify fun state => { state with rest := rest }
        return .namedReference name
      else if isLoose then plain else fail "group name not defined"
    | none => if isLoose then plain else fail "invalid group name"
  | _ => if isLoose then plain else fail "expecting group name"

/-- An escape outside a class, behind the backslash. -/
def escapeNode (shape : Shape) : Reader PatternNode := do
  let rest := (← get).rest
  match Char.ofNat (rest.headD 0) with
  | 'k' => namedReference shape
  | '0' =>
    if shape.unicode then
      if rest[1]?.any ClassItem.isDigit then fail "invalid decimal escape in regular expression"
      skip 1
      return .code 0
    else
      let (code, rest) := octal rest
      modify fun state => { state with rest := rest }
      return .code code
  | c =>
    if c.isDigit then
      let digits := digitsOf rest
      if valueOf digits < shape.groupCount then
        skip digits.length
        return .reference (valueOf digits)
      else if shape.unicode then fail "back reference out of range in regular expression"
      else if '8' ≤ c then
        skip 1
        return .code c.toNat
      else
        let (code, rest) := octal rest
        modify fun state => { state with rest := rest }
        return .code code
    else return ofItem (← escapeItem shape false)

/-- The kind of a group in parentheses, by what follows the opening one. -/
inductive Opening where
  | look (ahead negated : Bool)
  | plain
  | capture (name : Option String)

def opening (shape : Shape) : Reader Opening := do
  if ← acceptText "?:" then return .plain
  else if ← acceptText "?=" then return .look true false
  else if ← acceptText "?!" then return .look true true
  else if ← acceptText "?<=" then return .look false false
  else if ← acceptText "?<!" then return .look false true
  else if ← acceptText "?<" then
    let name ← groupName shape
    if ((← get).names.lookup name).isSome then fail "duplicate group name"
    return .capture (some name)
  else if ← isNext '?' then fail "invalid group"
  else return .capture none

/-- A group behind its opening parenthesis, given the reader of what is inside. -/
def groupNode (shape : Shape) (inside : Reader PatternNode) : Reader PatternNode := do
  match ← opening shape with
  | .capture name =>
    let index := (← get).groups
    modify fun state => { state with
      groups := state.groups + 1
      names := match name with
        | some name => state.names ++ [(name, index)]
        | none => state.names }
    let body ← inside
    expect ')'
    return .group index body
  | .plain => do
    let body ← inside
    expect ')'
    return body
  | .look ahead negated => do
    let body ← inside
    expect ')'
    return .look ahead negated body

def failRepeat {α : Type} : Reader α := fail "nothing to repeat"

/-- A part that begins with an opening brace. -/
def braceNode (shape : Shape) : Reader PatternNode := do
  if shape.unicode then fail "syntax error"
  if isQuantifier ((← get).rest.drop 1) then failRepeat
  skip 1
  return .code (codeOf '\x7b')

/-- One part with its quantifier. -/
def term (shape : Shape) (inside : Reader PatternNode) : Reader PatternNode := do
  let before := (← get).groups
  let some code ← peek | fail "unexpected end"
  match Char.ofNat code with
  | '^' => skip 1; return .lineStart
  | '$' => skip 1; return .lineEnd
  | '(' =>
    skip 1
    let node ← groupNode shape inside
    match node with
    | .look false .. => return node
    | .look true .. => if shape.unicode then return node else quantified shape node before
    | _ => quantified shape node before
  | '.' => skip 1; quantified shape .any before
  | '[' =>
    skip 1
    let negated ← accept '^'
    let items ← classItems shape (shape.size + 1) []
    quantified shape (.set negated true items) before
  | '*' | '+' | '?' => failRepeat
  | '\x7b' => do quantified shape (← braceNode shape) before
  | '\\' =>
    skip 1
    if ← accept 'b' then return .boundary false
    else if ← accept 'B' then return .boundary true
    else quantified shape (← escapeNode shape) before
  | c =>
    if shape.unicode && (c = ']' || c = '\x7d') then fail "syntax error"
    skip 1
    quantified shape (.code code) before

/-- The parts of an alternative. -/
def terms (shape : Shape) (inside : Reader PatternNode) :
    Nat → List PatternNode → Reader (List PatternNode)
  | 0, _ => fail "unexpected end"
  | fuel + 1, parts => do
    match ← peek with
    | none => return parts.reverse
    | some code =>
      if code = codeOf '|' || code = codeOf ')' then return parts.reverse
      else terms shape inside fuel ((← term shape inside) :: parts)

def options (shape : Shape) (inside : Reader PatternNode) :
    Nat → List PatternNode → Reader (List PatternNode)
  | 0, _ => fail "unexpected end"
  | fuel + 1, found => do
    let parts ← terms shape inside (shape.size + 1) []
    let option := match parts with
      | [single] => single
      | several => PatternNode.sequence several
    let found := option :: found
    if ← accept '|' then options shape inside fuel found else return found.reverse

/-- The alternatives up to a closing parenthesis or the end. `depth` bounds the groups within each
other. -/
def disjunction (shape : Shape) : Nat → Reader PatternNode
  | 0 => fail "stack overflow"
  | depth + 1 => do
    match ← options shape (disjunction shape depth) (shape.size + 1) [] with
    | [single] => return single
    | several => return .choice several

/-- The bound on groups within each other. -/
def depthLimit : Nat := 1000

/-- Reads a whole pattern. -/
def wholePattern (shape : Shape) : Reader PatternNode := do
  let root ← disjunction shape depthLimit
  unless (← get).rest.isEmpty do fail "extraneous characters at the end"
  return root

/-- Reads a pattern with its flags. -/
def compile (source flagText : Units) : Except String Pattern :=
  match PatternFlags.ofUnits? flagText with
  | none => .error "invalid regular expression flags"
  | some flags =>
    let codes := if flags.unicode then source.codes else source.data.toList.map (·.toNat)
    let groups := listGroups (codes.length + 1) codes
    let shape : Shape := ⟨flags.unicode, codes.length, groups.length + 1, groups.filterMap id⟩
    match (wholePattern shape).run ⟨codes, 1, []⟩ with
    | .ok root state => .ok ⟨source, flagText, flags, root, state.groups, state.names⟩
    | .error message _ => .error message

end Fingerprint.Script.Pattern
