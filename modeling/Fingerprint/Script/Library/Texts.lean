import Fingerprint.Script.Library.Regexes
import Fingerprint.Unicode.CaseMapping
import Fingerprint.Unicode.Normalization

/-!
The functions of texts.
-/

namespace Fingerprint.Script.Standard

variable (it : Interpreter)

/-- The text that a method is called on. -/
def thisUnits (this : Value) : M Units := do
  match this with
  | .text units => return units
  | .undefined | .null => throwType "null or undefined are forbidden"
  | other => toUnits it other

/-- The text that a method which belongs to texts alone is called on. -/
def ownUnits (this : Value) : M Units := do
  match this with
  | .text units => return units
  | .object ref =>
    match (← getObject ref).kind with
    | .wrapped (.text units) => return units
    | _ => throwType "not a string"
  | _ => throwType "not a string"

/-- A text that must not be a pattern. -/
def plainArgument (value : Value) : M Units := do
  if ← isRegex it value then throwType "regexp not supported"
  toUnits it value

/-! ### Units -/

def unitAt (units : Units) (place : Float) : Option UInt16 :=
  if place < 0 || Float.ofNat units.length ≤ place then none else units.get? place.toUInt64.toNat

def codeAt (units : Units) (place : Float) : Value :=
  match unitAt units place, unitAt units (place + 1) with
  | some high, some low =>
    if Units.isHigh high && Units.isLow low then .ofNat (Units.joinPair high low)
    else .ofNat high.toNat
  | some unit, none => .ofNat unit.toNat
  | none, _ => .undefined

def textUnit (name : String) (units : Units) (call : LibraryCall) : M Value := do
  let place ← toIntegral it call.first
  match name with
  | "charAt" => return .text ⟨(unitAt units place).toArray⟩
  | "charCodeAt" =>
    return ((unitAt units place).map fun unit => Value.ofNat unit.toNat).getD (.number Number.nan)
  | "codePointAt" => return codeAt units place
  | _ =>
    let place := if place < 0 then place + Float.ofNat units.length else place
    return ((unitAt units place).map fun unit => Value.text ⟨#[unit]⟩).getD .undefined

/-! ### Searching -/

def lastIndexOfText (units : Units) (call : LibraryCall) : M Value := do
  let wanted ← toUnits it call.first
  let place ← toNumber it call.second
  if units.length < wanted.length then return .number (-1)
  let most := units.length - wanted.length
  let start := if place.isNaN then most
    else if place < 0 then 0
    else if Float.ofNat most ≤ place then most
    else place.toUInt64.toNat
  return match units.lastIndexOf? wanted start with
    | some place => .ofNat place
    | none => .number (-1)

def textSearch (name : String) (units : Units) (call : LibraryCall) : M Value := do
  match name with
  | "indexOf" =>
    let wanted ← toUnits it call.first
    let start ← placeArgument it call.second units.length 0
    return match units.indexOf? wanted start with
      | some place => .ofNat place
      | none => .number (-1)
  | "includes" =>
    let wanted ← plainArgument it call.first
    let start ← placeArgument it call.second units.length 0
    return .bool (units.indexOf? wanted start).isSome
  | "startsWith" =>
    let wanted ← plainArgument it call.first
    let start ← placeArgument it call.second units.length 0
    return .bool (units.matchesAt wanted start)
  | "endsWith" =>
    let wanted ← plainArgument it call.first
    let stop ← placeArgument it call.second units.length units.length
    return .bool (wanted.length ≤ stop && units.matchesAt wanted (stop - wanted.length))
  | _ => lastIndexOfText it units call

/-! ### Parts -/

def clampPlace (value : Float) (length : Nat) : Nat :=
  let value := Number.integral value
  if value < 0 then 0 else if Float.ofNat length ≤ value then length else value.toUInt64.toNat

def textPart (name : String) (units : Units) (call : LibraryCall) : M Value := do
  let length := units.length
  match name with
  | "slice" =>
    let first ← placeArgument it call.first length 0
    let last ← placeArgument it call.second length length
    return .text (units.slice first last)
  | "substring" =>
    let first := clampPlace (← toNumber it call.first) length
    let last ← if call.second.isUndefined then pure length
      else do pure (clampPlace (← toNumber it call.second) length)
    return .text (units.slice (min first last) (max first last))
  | _ =>
    let first ← placeArgument it call.first length 0
    let count ← if call.second.isUndefined then pure length
      else do pure (clampPlace (← toNumber it call.second) length)
    return .text (units.slice first (min length (first + count)))

/-! ### Other texts -/

def repeatText (units : Units) (call : LibraryCall) : M Value := do
  let count ← toIntegral it call.first
  if count < 0 || 2147483647 < count then throwRange "invalid repeat count"
  let count := count.toUInt64.toNat
  if units.isEmpty || count = 0 then return .text .empty
  if 1073741823 < units.length * count then throwRange "invalid string length"
  reserve (units.length * count)
  spend (units.length * count / 32)
  return .text (units.times count)

/-- Fills a text up to a length. -/
def padText (units : Units) (call : LibraryCall) (atStart : Bool) : M Value := do
  let length ← toLength it call.first
  let filler ← if call.second.isUndefined then pure (Units.ofString " ") else toUnits it call.second
  if length ≤ units.length || filler.isEmpty then return .text units
  if 1073741823 < length then throwRange "invalid string length"
  reserve length
  let missing := length - units.length
  let padding := (filler.times (missing / filler.length + 1)).slice 0 missing
  return .text (if atStart then padding ++ units else units ++ padding)

def ofCodes (codes : List Nat) : Units := Units.concat (codes.map Units.ofCode)

/-- A text whose characters have been changed one by one; `ascii` says what becomes of those of
ASCII. -/
def mapCharacters (units : Units) (ascii : UInt16 → UInt16) (change : List Nat → List Nat) :
    Units :=
  if units.data.all (· < 0x80) then ⟨units.data.map ascii⟩ else ofCodes (change units.codes)

def upperText (units : Units) : Units :=
  mapCharacters units (fun unit => if 0x61 ≤ unit && unit ≤ 0x7A then unit - 0x20 else unit)
    Unicode.upperText

def lowerText (units : Units) : Units :=
  mapCharacters units (fun unit => if 0x41 ≤ unit && unit ≤ 0x5A then unit + 0x20 else unit)
    Unicode.lowerText

/-- The normal form that a text names. -/
def normalForm? (name : Value) : M (Option Unicode.NormalForm) := do
  match name with
  | .undefined => return some .nfc
  | name =>
    return match (← toUnits it name).toText with
      | "NFC" => some .nfc
      | "NFD" => some .nfd
      | "NFKC" => some .nfkc
      | "NFKD" => some .nfkd
      | _ => none

def normalText (units : Units) (name : Value) : M Value := do
  match ← normalForm? it name with
  | some form =>
    spend (units.length / 4)
    return .text (mapCharacters units id form.apply)
  | none => throwRange "bad normalization form"

/-- Compares two texts by their characters, put together as far as they can be. -/
def compareTexts (left right : Units) : Value :=
  let left := Unicode.NormalForm.nfc.apply left.codes
  let right := Unicode.NormalForm.nfc.apply right.codes
  if left < right then .number (-1) else if left == right then .number 0 else .number 1

/-- A text with lone surrogates replaced. -/
def wellFormed (units : Units) : Units := Units.ofString units.toText

def otherText (name : String) (units : Units) (call : LibraryCall) : M Value := do
  match name with
  | "toUpperCase" | "toLocaleUpperCase" => return .text (upperText units)
  | "toLowerCase" | "toLocaleLowerCase" => return .text (lowerText units)
  | "trim" => return .text units.trimStart.trimEnd
  | "trimStart" => return .text units.trimStart
  | "trimEnd" => return .text units.trimEnd
  | "padStart" => padText it units call true
  | "padEnd" => padText it units call false
  | "repeat" => repeatText it units call
  | "concat" =>
    let parts ← call.arguments.toList.mapM (toUnits it)
    return .text (Units.concat (units :: parts))
  | "localeCompare" => return compareTexts units (← toUnits it call.first)
  | "isWellFormed" => return .bool units.toString?.isSome
  | "toWellFormed" => return .text (wellFormed units)
  | _ => normalText it units call.first

/-! ### Searching for texts and expressions -/

/-- The method of an argument that does the work of a method of texts. -/
def searchMethod? (argument : Value) (symbol : WellKnownSymbol) : M (Option Value) := do
  if argument.isNullish then return none
  let method ← getOf it argument symbol.key
  return if method.isNullish then none else some method

/-- Refuses expressions that find one match only. -/
def requireGlobal (regex : Value) : M Unit := do
  if ← isRegex it regex then
    let flags ← getOf it regex "flags"
    if flags.isNullish then throwType "cannot convert to object"
    unless hasLetter (← toUnits it flags) 'g' do throwType "regexp must have the 'g' flag"

/-- The places at which a text stands in another one, none of which overlap. -/
def allPlaces (units wanted : Units) : M (Array Nat) :=
  repeatLoop ((#[] : Array Nat), 0) fun (found, start) => do
    match units.indexOf? wanted start with
    | some place =>
      return .inl (found.push place, if wanted.isEmpty then place + 1 else place + wanted.length)
    | none => return .inr found

/-- A text with another one replaced in it. -/
def replacePlain (call : LibraryCall) (all : Bool) : M Value := do
  let units ← toUnits it call.this
  let wanted ← toUnits it call.first
  let replacement ← replacementOf it call.second
  let places ← if all then allPlaces units wanted else pure (units.indexOf? wanted 0).toArray
  let (done, position) ← places.foldlM (fun (done, position) place => do
    let text ← replacementText it replacement ⟨units, wanted, place, #[.text wanted], .undefined⟩
    return (done ++ units.slice position place ++ text, place + wanted.length)) (Units.empty, 0)
  return .text (done ++ units.slice position units.length)

def replaceText (call : LibraryCall) (all : Bool) : M Value := do
  if all && !call.first.isNullish then requireGlobal it call.first
  match ← searchMethod? it call.first .replaceMethod with
  | some method => it.call method call.first #[call.this, call.second]
  | none => replacePlain it call all

/-- The parts of a text between the places of another one. -/
def splitPlaces (units separator : Units) : M (Array Value) :=
  repeatLoop ((#[] : Array Value), 0) fun (found, start) => do
    match units.indexOf? separator start with
    | some place =>
      return .inl (found.push (.text (units.slice start place)), place + separator.length)
    | none => return .inr (found.push (.text (units.slice start units.length)))

/-- The parts of a text between the places of another one, or its units if that one is empty. -/
def splitPlain (call : LibraryCall) : M Value := do
  let units ← toUnits it call.this
  let limit ← splitLimit it call.second
  let separator ← toUnits it call.first
  let parts ← if limit = 0 then pure #[]
    else if call.first.isUndefined then pure #[Value.text units]
    else if separator.isEmpty then pure (units.data.map fun unit => Value.text ⟨#[unit]⟩)
    else splitPlaces units separator
  return .object (← newArray (parts.extract 0 limit))

def splitText (call : LibraryCall) : M Value := do
  match ← searchMethod? it call.first .splitMethod with
  | some method => it.call method call.first #[call.this, call.second]
  | none => splitPlain it call

/-- Searches with an argument, or with an expression that is made of it. -/
def searchText (call : LibraryCall) (symbol : WellKnownSymbol) : M Value := do
  if symbol = .matchAllMethod && !call.first.isNullish then
    let _ ← getOf it call.first symbol.key
    requireGlobal it call.first
  match ← searchMethod? it call.first symbol with
  | some method => it.call method call.first #[call.this]
  | none =>
    let units ← toUnits it call.this
    let flags := if symbol = .matchAllMethod then #[Value.ofText "g"] else #[]
    let constructor := Intrinsic.regex.value
    let regex ← it.construct constructor (#[call.first] ++ flags) constructor
    invoke it regex symbol.key #[.text units]

def textPattern (name : String) (call : LibraryCall) : M Value := do
  if call.this.isNullish then throwType "cannot convert to object"
  match name with
  | "replace" => replaceText it call false
  | "replaceAll" => replaceText it call true
  | "split" => splitText it call
  | "match" => searchText it call .matchMethod
  | "matchAll" => searchText it call .matchAllMethod
  | _ => searchText it call .searchMethod

/-! ### Marks -/

/-- The tag that a method puts around a text, and what its argument is called there. -/
def tagOf? (name : String) : Option (String × String) :=
  match name with
  | "anchor" => some ("a", "name")
  | "big" => some ("big", "")
  | "blink" => some ("blink", "")
  | "bold" => some ("b", "")
  | "fixed" => some ("tt", "")
  | "fontcolor" => some ("font", "color")
  | "fontsize" => some ("font", "size")
  | "italics" => some ("i", "")
  | "link" => some ("a", "href")
  | "small" => some ("small", "")
  | "strike" => some ("strike", "")
  | "sub" => some ("sub", "")
  | "sup" => some ("sup", "")
  | _ => none

def tagText (tag detail : String) (units : Units) (call : LibraryCall) : M Value := do
  let opening : Units ← if detail.isEmpty then pure (Units.ofString tag)
    else do
      let value ← toUnits it call.first
      let quoted : Units := ⟨value.data.flatMap fun unit =>
        if unit = 0x22 then (Units.ofString "&quot;").data else #[unit]⟩
      pure (Units.ofString (tag ++ " " ++ detail ++ "=\"") ++ quoted ++ "\"")
  return .text ("<" ++ opening ++ ">" ++ units ++ Units.ofString ("</" ++ tag ++ ">"))

/-! ### All functions -/

def textPrototype : LibraryCode := fun name call => do
  match name with
  | "toString" | "valueOf" => return .text (← ownUnits call.this)
  | "replace" | "replaceAll" | "split" | "match" | "matchAll" | "search" => textPattern it name call
  | name =>
    let units ← thisUnits it call.this
    match name with
    | "charAt" | "charCodeAt" | "codePointAt" | "at" => textUnit it name units call
    | "indexOf" | "lastIndexOf" | "includes" | "startsWith" | "endsWith" =>
      textSearch it name units call
    | "slice" | "substring" | "substr" => textPart it name units call
    | "[Symbol.iterator]" => newCursor (.text units 0)
    | name =>
      match tagOf? name with
      | some (tag, detail) => tagText it tag detail units call
      | none => otherText it name units call

def textPrototypeGroup : LibraryGroup where
  library := .textPrototype
  members :=
    [ .locked "length" (.ofNat 0), .method "at" 1, .method "charCodeAt" 1, .method "charAt" 1,
      .method "concat" 1, .method "codePointAt" 1, .method "isWellFormed" 0,
      .method "toWellFormed" 0, .method "indexOf" 1, .method "lastIndexOf" 1,
      .method "includes" 1, .method "endsWith" 1, .method "startsWith" 1, .method "match" 1,
      .method "matchAll" 1, .method "search" 1, .method "split" 2, .method "substring" 2,
      .method "substr" 2, .method "slice" 2, .method "repeat" 1, .method "replace" 2,
      .method "replaceAll" 2, .method "padEnd" 1, .method "padStart" 1, .method "trim" 0,
      .method "trimEnd" 0, .alias "trimRight" "trimEnd", .method "trimStart" 0,
      .alias "trimLeft" "trimStart", .method "toString" 0, .method "valueOf" 0,
      .method "localeCompare" 1, .method "normalize" 0, .method "toLowerCase" 0,
      .method "toUpperCase" 0, .method "toLocaleLowerCase" 0, .method "toLocaleUpperCase" 0,
      .keyed .iterator 0, .method "anchor" 1, .method "big" 0, .method "blink" 0, .method "bold" 0,
      .method "fixed" 0, .method "fontcolor" 1, .method "fontsize" 1, .method "italics" 0,
      .method "link" 1, .method "small" 0, .method "strike" 0, .method "sub" 0, .method "sup" 0 ]

/-! ### Making texts -/

def fromCodes (values : Array Value) : M Value := do
  let parts ← values.toList.mapM fun value => do
    let number ← toNumber it value
    if !Number.isInteger number || number < 0 || 1114111 < number then
      throwRange "invalid code point"
    return Units.ofCode number.toUInt64.toNat
  return .text (Units.concat parts)

def fromUnits (values : Array Value) : M Value := do
  let units ← values.mapM fun value => do
    return (Number.toUInt32 (← toNumber it value)).toUInt16
  return .text ⟨units⟩

/-- The pieces of a template as they were written, with values between them. -/
def rawTemplate (call : LibraryCall) : M Value := do
  let pieces ← toObject (← getOf it call.first "raw")
  let items ← listItems it pieces
  let texts ← items.mapM (toUnits it)
  let found ← texts.toList.zipIdx.foldlM (fun found (text, place) => do
    let found := found ++ text
    if place + 1 < texts.size && place + 1 < call.arguments.size then
      return found ++ (← toUnits it (call.argument (place + 1)))
    else return found) Units.empty
  return .text found

def newText (call : LibraryCall) : M Value := do
  let units ← match call.arguments.toList.head?, call.isConstruction with
    | none, _ => pure Units.empty
    | some (.symbol id), false =>
      pure ("Symbol(" ++ (((← get).symbols[id]?).join).getD .empty ++ ")")
    | some value, _ => toUnits it value
  if call.isConstruction then
    let prototype ← prototypeFor it call.newTarget .textPrototype
    return .object (← allocate (.ofKind (some prototype) (.wrapped (.text units))))
  else return .text units

def text : LibraryCode := fun name call => do
  match name with
  | "fromCharCode" => fromUnits it call.arguments
  | "fromCodePoint" => fromCodes it call.arguments
  | "raw" => rawTemplate it call
  | _ => newText it call

def textGroup : LibraryGroup :=
  .ofList .text [("fromCharCode", 1), ("fromCodePoint", 1), ("raw", 1)]

end Fingerprint.Script.Standard
