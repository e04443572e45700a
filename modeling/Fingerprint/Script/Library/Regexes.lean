import Fingerprint.Script.Library.Basic
import Fingerprint.Script.Pattern.Parser

/-!
The functions of regular expressions, and searching texts with them.

Texts are searched through the method `exec` of an expression, which scripts may replace, and so
everything here holds for any object with such a method.
-/

namespace Fingerprint.Script.Standard

open Pattern (Spans)

/-- The pattern that an object is. -/
def patternOf? (value : Value) : M (Option Pattern) := do
  match value with
  | .object ref =>
    match (← getObject ref).kind with
    | .regex pattern => return some pattern
    | _ => return none
  | _ => return none

def requirePattern (this : Value) : M (Ref × Pattern) := do
  match this, ← patternOf? this with
  | .object ref, some pattern => return (ref, pattern)
  | _, _ => throwClass "RegExp"

/-! ### Results of a search -/

def spanText (units : Units) (span : Option (Nat × Nat)) : Value :=
  match span with
  | some (first, last) => .text (units.slice first last)
  | none => .undefined

/-- The two ends of a span. -/
def spanPair (span : Option (Nat × Nat)) : M Value := do
  match span with
  | some (first, last) => return .object (← newArray #[.ofNat first, .ofNat last])
  | none => return .undefined

/-- Where a match begins and ends. -/
def wholeSpan (spans : Spans) : Nat × Nat := ((spans[0]?).join).getD (0, 0)

/-- An object with the groups that have names; of groups of one name the one that takes part
counts. -/
def groupsObject (pattern : Pattern) (spans : Spans) (show? : Option (Nat × Nat) → M Value) :
    M Value := do
  if pattern.names.isEmpty then return .undefined
  else
    let ref ← allocate (.ofKind none .ordinary)
    pattern.names.forM fun (name, group) => do
      let key := Key.ofUnits name
      let span := (spans[group]?).join
      if span.isSome || ((← getObject ref).properties.get? key).isNone then
        createProperty ref key (← show? span)
    return .object ref

/-- The array that tells about a match. -/
def matchArray (pattern : Pattern) (units : Units) (spans : Spans) : M Value := do
  let ref ← newArray (spans.map (spanText units))
  createProperty ref "groups" (← groupsObject pattern spans fun span => return spanText units span)
  createProperty ref "index" (.ofNat (wholeSpan spans).1)
  createProperty ref "input" (.text units)
  if pattern.flags.indices then
    let pairs ← newArray (← spans.mapM spanPair)
    createProperty pairs "groups" (← groupsObject pattern spans spanPair)
    createProperty ref "indices" (.object pairs)
  return .object ref

/-! ### Searching -/

/-- The steps of a search that take as long as one step of a script. -/
def searchStepsPerStep : Nat := 4

/-- The first match from a position on; the search takes time. -/
def execPattern (pattern : Pattern) (units : Units) (position : Nat) : M (Option Spans) := do
  let machine ← get
  let steps := (machine.deadline + checkInterval - machine.clock) * searchStepsPerStep
  let (outcome, left) := pattern.exec units pattern.flags.sticky steps position
  spend ((steps - left) / searchStepsPerStep)
  match outcome with
  | .matched spans => return some spans
  | .failed => return none
  | .exhausted => throw .interrupted

variable (it : Interpreter)

def setLastIndex (regex : Value) (place : Nat) : M Unit :=
  setOf it true regex "lastIndex" (.ofNat place)

def startOf (regex : Value) : M Nat := do toLength it (← getOf it regex "lastIndex")

/-- Searches with the pattern that an object is. -/
def builtinExec (this : Value) (units : Value) : M Value := do
  let (_, pattern) ← requirePattern this
  let units ← toUnits it units
  let start ← startOf it this
  let goesOn := pattern.flags.all || pattern.flags.sticky
  let start := if goesOn then start else 0
  match ← execPattern pattern units start with
  | some spans =>
    if goesOn then setLastIndex it this (wholeSpan spans).2
    matchArray pattern units spans
  | none =>
    if goesOn || units.length < start then setLastIndex it this 0
    return .null

/-- Searches with the method of an object; `none` if there is no match. -/
def execOf (regex : Value) (units : Units) : M (Option Ref) := do
  let method ← getOf it regex "exec"
  let result ← if ← isCallable method then it.call method regex #[.text units]
    else builtinExec it regex (.text units)
  match result with
  | .object ref => return some ref
  | .null => return none
  | _ => throwType "RegExp exec method must return an object or null"

/-- The text that a search has found. -/
def matchedText (found : Ref) : M Units := do toUnits it (← getProperty it found (.index 0))

/-- The position behind the character at a position. -/
def advanceIndex (units : Units) (place : Nat) (isUnicode : Bool) : Nat :=
  match units.get? place, units.get? (place + 1) with
  | some high, some low =>
    if isUnicode && Units.isHigh high && Units.isLow low then place + 2 else place + 1
  | _, _ => place + 1

/-- Moves on from a match without text, so that the next search does not find it again. -/
def skipEmpty (regex : Value) (units matched : Units) (isUnicode : Bool) : M Unit := do
  if matched.isEmpty then
    setLastIndex it regex (advanceIndex units (← startOf it regex) isUnicode)

def flagsOf (regex : Value) : M Units := do toUnits it (← getOf it regex "flags")

def hasLetter (units : Units) (letter : Char) : Bool := units.data.contains letter.toNat.toUInt16

/-- Whether a pattern with some flags goes through texts character by character. -/
def isUnicode (flags : Units) : Bool := hasLetter flags 'u' || hasLetter flags 'v'

/-- Whether a value stands for a pattern in the eyes of scripts. -/
def isRegex (value : Value) : M Bool := do
  match value with
  | .object ref =>
    match ← getProperty it ref WellKnownSymbol.matchMethod.key with
    | .undefined => return (← patternOf? value).isSome
    | mark => return mark.isTruthy
  | _ => return false

/-! ### Making expressions -/

def compilePattern (source flags : Units) : M Pattern :=
  match Pattern.compile source flags with
  | .ok pattern => return pattern
  | .error message => throwNew .grammar (Units.ofString message)

def textOrEmpty (value : Value) : M Units := do
  if value.isUndefined then return .empty else toUnits it value

def newRegexOf (call : LibraryCall) : M Value := do
  let looksLike ← isRegex it call.first
  let isKept ← if !call.isConstruction && looksLike && call.second.isUndefined then do
      pure ((← getOf it call.first "constructor").same call.function)
    else pure false
  if isKept then return call.first
  let pattern ← match ← patternOf? call.first with
    | some pattern =>
      if call.second.isUndefined then pure pattern
      else compilePattern pattern.source (← toUnits it call.second)
    | none => do
      let source ← if looksLike then getOf it call.first "source" else pure call.first
      let flags ← if looksLike && call.second.isUndefined then getOf it call.first "flags"
        else pure call.second
      compilePattern (← textOrEmpty it source) (← textOrEmpty it flags)
  let prototype ← prototypeFor it (if call.isConstruction then call.newTarget else call.function)
    .regexPrototype
  let value ← newRegex pattern
  if let .object ref := value then
    modifyObject ref fun object => { object with prototype := some prototype }
  return value

/-- Replaces the pattern of an expression. -/
def recompile (call : LibraryCall) : M Value := do
  let (regex, _) ← requirePattern call.this
  let pattern ← match ← patternOf? call.first with
    | some pattern => do
      unless call.second.isUndefined do throwType "flags must be undefined"
      pure pattern
    | none => do
      let source ← textOrEmpty it call.first
      compilePattern source (← textOrEmpty it call.second)
  modifyObject regex fun object => { object with kind := .regex pattern }
  setLastIndex it call.this 0
  return call.this

/-- The letters that a backslash and a letter stand for. -/
def controlLetter? (code : Nat) : Option Char :=
  if 9 ≤ code && code ≤ 13 then "tnvfr".toList[code - 9]? else none

def hexText (code width : Nat) : String :=
  let digits := String.ofList (Nat.toDigits 16 code)
  String.ofList (List.replicate (width - digits.length) '0') ++ digits

/-- A unit of a text in a pattern that matches the text. -/
def escapeUnit (isFirst : Bool) (unit : UInt16) : Units :=
  let code := unit.toNat
  let c := Char.ofNat code
  let byByte := Units.ofString ("\\x" ++ hexText code 2)
  if code < 33 then
    match controlLetter? code with
    | some letter => Units.ofString (String.ofList ['\\', letter])
    | none => byByte
  else if code < 128 then
    if c.isAlphanum then if isFirst then byByte else ⟨#[unit]⟩
    else if ",-=<>#&!%:;@~'\x60\"".toList.contains c then byByte
    else if c = '_' then ⟨#[unit]⟩
    else Units.ofString (String.ofList ['\\', c])
  else if code < 256 then byByte
  else if Units.isSurrogate code || Units.isSpace unit then Units.ofString ("\\u" ++ hexText code 4)
  else ⟨#[unit]⟩

def escapeRegex (value : Value) : M Value := do
  match value with
  | .text units =>
    let parts := units.data.toList.zipIdx.map fun (unit, place) => escapeUnit (place = 0) unit
    return .text (Units.concat parts)
  | _ => throwType "not a string"

def regex : LibraryCode := fun name call => do
  match name with
  | "escape" => escapeRegex call.first
  | "get [Symbol.species]" => return call.this
  | _ => newRegexOf it call

def regexGroup : LibraryGroup := ⟨.regex, [.method "escape" 1, .keyedGetter .species]⟩

/-! ### Texts of expressions -/

/-- A source with ends of lines and slashes in a form that can stand between slashes. -/
def quoteSource : List UInt16 → Bool → List UInt16
  | [], _ => []
  | 0x5C :: unit :: rest, inClass => 0x5C :: unit :: quoteSource rest inClass
  | 0x5D :: rest, _ => 0x5D :: quoteSource rest false
  | 0x5B :: 0x5D :: rest, false => 0x5B :: 0x5D :: quoteSource rest true
  | 0x5B :: rest, _ => 0x5B :: quoteSource rest true
  | 0x0A :: rest, inClass => 0x5C :: 0x6E :: quoteSource rest inClass
  | 0x0D :: rest, inClass => 0x5C :: 0x72 :: quoteSource rest inClass
  | 0x2F :: rest, false => 0x5C :: 0x2F :: quoteSource rest false
  | unit :: rest, inClass => unit :: quoteSource rest inClass

def sourceText (source : Units) : Units :=
  if source.isEmpty then "(?:)" else ⟨(quoteSource source.data.toList false).toArray⟩

/-- The letters of flags, with the properties that tell about them. -/
def flagLetters : List (String × Char) :=
  [("hasIndices", 'd'), ("global", 'g'), ("ignoreCase", 'i'), ("multiline", 'm'), ("dotAll", 's'),
    ("unicode", 'u'), ("unicodeSets", 'v'), ("sticky", 'y')]

def describeFlags (this : Value) : M Value := do
  let ref ← requireObject this
  let letters ← flagLetters.filterM fun (name, _) => do
    return (← getProperty it ref (.ofUnits name)).isTruthy
  return .ofText (String.ofList (letters.map (·.2)))

/-- The property of an expression that tells about a flag. -/
def readFlag (this : Value) (letter : Char) : M Value := do
  let ref ← requireObject this
  match ← patternOf? this with
  | some pattern => return .bool (hasLetter pattern.flagText letter)
  | none => if ref = Intrinsic.regexPrototype.ref then return .undefined else throwClass "RegExp"

def readSource (this : Value) : M Value := do
  let ref ← requireObject this
  if ref = Intrinsic.regexPrototype.ref then return .ofText "(?:)"
  let (_, pattern) ← requirePattern this
  return .text (sourceText pattern.source)

def regexText (this : Value) : M Value := do
  let ref ← requireObject this
  let source ← toUnits it (← getProperty it ref "source")
  return .text ("/" ++ source ++ "/" ++ (← toUnits it (← getProperty it ref "flags")))

/-! ### Replacing -/

/-- The digits at the front of a text, at most two. -/
def groupNumber (units : List UInt16) : List Nat :=
  (units.take 2).takeWhile (fun unit => 0x30 ≤ unit && unit ≤ 0x39) |>.map fun unit =>
    unit.toNat - 0x30

/-- The number of a group that digits name, with the count of digits it takes. -/
def groupChoice (digits : List Nat) (count : Nat) : Option (Nat × Nat) :=
  match digits with
  | [first, second] =>
    let both := first * 10 + second
    if 1 ≤ both && both < count then some (both, 2)
    else if 1 ≤ first && first < count then some (first, 1)
    else none
  | [first] => if 1 ≤ first && first < count then some (first, 1) else none
  | _ => none

/-- What the marks in a replacement stand for. -/
structure Replaced where
  units : Units
  matched : Units
  position : Nat
  /-- What the groups have matched, the whole match first. -/
  captures : Array Value
  /-- The object of the groups with names, or undefined. -/
  named : Value

namespace Replaced

def capture (replaced : Replaced) (group : Nat) : Units :=
  match replaced.captures[group]? with
  | some (.text units) => units
  | _ => .empty

/-- The text that a name in angle brackets stands for. -/
def namedCapture (replaced : Replaced) (name : List UInt16) : M Units := do
  match ← getOf it replaced.named (.ofUnits ⟨name.toArray⟩) with
  | .undefined => return .empty
  | value => toUnits it value

/-- Writes a replacement; `fuel` bounds its marks. -/
def expand (replaced : Replaced) : Nat → List UInt16 → Units → M Units
  | 0, _, done => return done
  | _ + 1, [], done => return done
  | fuel + 1, unit :: rest, done => do
    let plain := Units.mk (done.data.push unit)
    if unit ≠ 0x24 then expand replaced fuel rest plain
    else
      let last := replaced.position + replaced.matched.length
      match rest with
      | 0x24 :: rest => expand replaced fuel rest plain
      | 0x26 :: rest => expand replaced fuel rest (done ++ replaced.matched)
      | 0x60 :: rest => expand replaced fuel rest (done ++ replaced.units.slice 0 replaced.position)
      | 0x27 :: rest =>
        expand replaced fuel rest (done ++ replaced.units.slice last replaced.units.length)
      | 0x3C :: inner =>
        let name := inner.takeWhile (· ≠ 0x3E)
        if replaced.named.isUndefined || name.length = inner.length then
          expand replaced fuel rest plain
        else
          let text ← replaced.namedCapture it name
          expand replaced fuel (inner.drop (name.length + 1)) (done ++ text)
      | rest =>
        match groupChoice (groupNumber rest) replaced.captures.size with
        | some (index, width) =>
          expand replaced fuel (rest.drop width) (done ++ replaced.capture index)
        | none => expand replaced fuel rest plain

end Replaced

/-- A replacement as it was given: a function, or anything else as a text. -/
def replacementOf (value : Value) : M Value := do
  if ← isCallable value then return value else return .text (← toUnits it value)

/-- What a match is replaced by: a text with marks, or the result of a function. -/
def replacementText (replacement : Value) (replaced : Replaced) : M Units := do
  match replacement with
  | .text text =>
    let named ← if replaced.named.isUndefined then pure Value.undefined
      else do pure (.object (← toObject replaced.named))
    { replaced with named := named }.expand it (text.length + 1) text.data.toList .empty
  | function =>
    let arguments := replaced.captures ++ #[.ofNat replaced.position, .text replaced.units]
    let arguments := if replaced.named.isUndefined then arguments else arguments.push replaced.named
    toUnits it (← it.call function .undefined arguments)

/-- What a match that an object tells about is replaced as. -/
def replacedOf (found : Ref) (units : Units) : M Replaced := do
  let count ← lengthOf it found
  let matched ← matchedText it found
  let position ← toIntegral it (← getProperty it found "index")
  let position := if position < 0 then 0
    else if Float.ofNat units.length < position then units.length
    else position.toUInt64.toNat
  let captures ← (List.range (count - 1)).mapM fun place => do
    match ← getProperty it found (.index (place + 1)) with
    | .undefined => return Value.undefined
    | value => return .text (← toUnits it value)
  let named ← getProperty it found "groups"
  return ⟨units, matched, position, (Value.text matched :: captures).toArray, named⟩

/-- The matches of an expression in a text, all of them or the next one. -/
def findMatches (regex : Value) (units : Units) (isGlobal isUnicode : Bool) : M (Array Ref) := do
  if isGlobal then
    setLastIndex it regex 0
    repeatLoop #[] fun found => do
      match ← execOf it regex units with
      | some ref =>
        skipEmpty it regex units (← matchedText it ref) isUnicode
        return .inl (found.push ref)
      | none => return .inr found
  else
    match ← execOf it regex units with
    | some ref => return #[ref]
    | none => return #[]

def replaceMatches (regex : Value) (call : LibraryCall) : M Value := do
  let units ← toUnits it call.first
  let replacement ← replacementOf it call.second
  let flags ← flagsOf it regex
  let found ← findMatches it regex units (hasLetter flags 'g') (isUnicode flags)
  let (done, position) ← found.foldlM (fun (done, position) found => do
    let replaced ← replacedOf it found units
    let text ← replacementText it replacement replaced
    if replaced.position < position then return (done, position)
    else
      return (done ++ units.slice position replaced.position ++ text,
        replaced.position + replaced.matched.length)) (Units.empty, 0)
  return .text (done ++ units.slice position units.length)

/-! ### Matching and splitting -/

def matchRegex (regex : Value) (call : LibraryCall) : M Value := do
  let units ← toUnits it call.first
  let flags ← flagsOf it regex
  if hasLetter flags 'g' then
    let found ← findMatches it regex units true (isUnicode flags)
    if found.isEmpty then return .null
    let texts ← found.mapM fun ref => return Value.text (← matchedText it ref)
    return .object (← newArray texts)
  else
    match ← execOf it regex units with
    | some ref => return .object ref
    | none => return .null

/-- An expression like a given one, with some flags. -/
def copyRegex (regex : Value) (flags : Units) : M Value := do
  let constructor ← speciesOf it regex Intrinsic.regex.value
  it.construct constructor #[regex, .text flags] constructor

def matchAllRegex (regex : Value) (call : LibraryCall) : M Value := do
  let units ← toUnits it call.first
  let flags ← flagsOf it regex
  let matcher ← copyRegex it regex flags
  setLastIndex it matcher (← startOf it regex)
  let ref ← requireObject matcher
  newCursor (.matches ref units (hasLetter flags 'g') (isUnicode flags))

/-- The next match that an iterator yields. -/
def advanceMatches (cursor : Ref) : M Step := do
  let .cursor (.matches regex units isGlobal isUnicode) := (← getObject cursor).kind
    | return .done .undefined
  match ← execOf it (.object regex) units with
  | none => finish cursor .matches
  | some found =>
    if isGlobal then skipEmpty it (.object regex) units (← matchedText it found) isUnicode
    else setCursor cursor (.finished .matches)
    return .item (.object found)

def searchRegex (regex : Value) (call : LibraryCall) : M Value := do
  let units ← toUnits it call.first
  let before ← getOf it regex "lastIndex"
  unless before.identical (.ofNat 0) do setLastIndex it regex 0
  let found ← execOf it regex units
  unless (← getOf it regex "lastIndex").identical before do setOf it true regex "lastIndex" before
  match found with
  | some ref => getProperty it ref "index"
  | none => return .number (-1)

/-- A text that is being split: the parts so far, where the next part begins, and where the next
search begins. -/
structure Splitting where
  parts : Array Value
  start : Nat
  position : Nat

/-- The parts of a text between the matches of an expression, with what its groups have matched. -/
def splitParts (splitter : Value) (units : Units) (isUnicode : Bool) (limit : Nat) :
    M (Array Value) :=
  repeatLoop (Splitting.mk #[] 0 0) fun ⟨parts, start, position⟩ => do
    if limit ≤ parts.size then return .inr parts
    else if units.length ≤ position then
      return .inr (parts.push (.text (units.slice start units.length)))
    else
      setLastIndex it splitter position
      match ← execOf it splitter units with
      | none => return .inl ⟨parts, start, advanceIndex units position isUnicode⟩
      | some found =>
        let stop := min (← startOf it splitter) units.length
        if stop = start then return .inl ⟨parts, start, advanceIndex units position isUnicode⟩
        else
          let count ← lengthOf it found
          let groups ←
            (List.range (count - 1)).mapM fun place => getProperty it found (.index (place + 1))
          let part := Value.text (units.slice start position)
          return .inl ⟨parts.push part ++ groups.toArray, stop, stop⟩

/-- The largest number of parts of a text that an argument allows. -/
def splitLimit (value : Value) : M Nat := do
  if value.isUndefined then return 4294967295
  else return (Number.toUInt32 (← toNumber it value)).toNat

def splitRegex (regex : Value) (call : LibraryCall) : M Value := do
  let units ← toUnits it call.first
  let flags ← flagsOf it regex
  let splitter ← copyRegex it regex (if hasLetter flags 'y' then flags else flags ++ "y")
  let limit ← splitLimit it call.second
  if limit = 0 then return .object (← newArray #[])
  if units.isEmpty then
    let isSplit := (← execOf it splitter units).isSome
    return .object (← newArray (if isSplit then #[] else #[.text units]))
  let parts ← splitParts it splitter units (isUnicode flags) limit
  return .object (← newArray (parts.extract 0 limit))

/-! ### All functions -/

def regexPrototype : LibraryCode := fun name call => do
  match name with
  | "exec" => builtinExec it call.this call.first
  | "toString" => regexText it call.this
  | "get source" => readSource call.this
  | "get flags" => describeFlags it call.this
  | "compile" => recompile it call
  | name =>
    match flagLetters.find? fun (property, _) => name == "get " ++ property with
    | some (_, letter) => readFlag call.this letter
    | none =>
      let _ ← requireObject call.this
      match name with
      | "test" => return .bool (← execOf it call.this (← toUnits it call.first)).isSome
      | "[Symbol.replace]" => replaceMatches it call.this call
      | "[Symbol.match]" => matchRegex it call.this call
      | "[Symbol.matchAll]" => matchAllRegex it call.this call
      | "[Symbol.search]" => searchRegex it call.this call
      | _ => splitRegex it call.this call

def regexPrototypeGroup : LibraryGroup where
  library := .regexPrototype
  members :=
    [ .getter "flags", .getter "source", .getter "global", .getter "ignoreCase",
      .getter "multiline", .getter "dotAll", .getter "unicode", .getter "unicodeSets",
      .getter "sticky", .getter "hasIndices", .method "exec" 1, .method "compile" 2,
      .method "test" 1, .method "toString" 0, .keyed .replaceMethod 2, .keyed .matchMethod 1,
      .keyed .matchAllMethod 1, .keyed .searchMethod 1, .keyed .splitMethod 2 ]

end Fingerprint.Script.Standard
