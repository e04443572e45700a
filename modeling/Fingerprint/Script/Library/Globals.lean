import Fingerprint.Script.Library.Functions
import Fingerprint.Script.Library.Numbers

/-!
The functions of the global object.
-/

namespace Fingerprint.Script.Standard

variable (it : Interpreter)

/-! ### Texts in addresses -/

def isAsciiWord (code : Nat) : Bool :=
  (0x30 ≤ code && code ≤ 0x39) || (0x41 ≤ code && code ≤ 0x5A) || (0x61 ≤ code && code ≤ 0x7A)

/-- Whether a code stands for itself in a part of an address. -/
def isPartCode (code : Nat) : Bool :=
  isAsciiWord code || "-_.!~*'()".toList.any (·.toNat = code)

/-- Whether a code stands for itself in a whole address. -/
def isAddressCode (code : Nat) : Bool :=
  isPartCode code || ";/?:@&=+$,#".toList.any (·.toNat = code)

def isReserved (code : Nat) : Bool := ";/?:@&=+$,#".toList.any (·.toNat = code)

def hexPair (byte : Nat) : List Char :=
  let digit (value : Nat) : Char := Char.ofNat (if value < 10 then 48 + value else 55 + value)
  ['%', digit (byte / 16), digit (byte % 16)]

def throwAddress {α : Type} (message : String) : M α := throwNew .uri (Units.ofString message)

/-- Writes the bytes of units that do not stand for themselves. -/
def encodeUnits (kept : Nat → Bool) : List UInt16 → M (List Char)
  | [] => return []
  | unit :: rest => do
    if kept unit.toNat then return Char.ofNat unit.toNat :: (← encodeUnits kept rest)
    else if Units.isLow unit then throwAddress "invalid character"
    else if Units.isHigh unit then
      match rest with
      | low :: rest =>
        unless Units.isLow low do throwAddress "expecting surrogate pair"
        let code := 0x10000 + (unit.toNat - 0xD800) * 1024 + (low.toNat - 0xDC00)
        return encoded code ++ (← encodeUnits kept rest)
      | [] => throwAddress "expecting surrogate pair"
    else return encoded unit.toNat ++ (← encodeUnits kept rest)
where
  encoded (code : Nat) : List Char :=
    (String.singleton (Char.ofNat code)).toUTF8.toList.flatMap fun byte => hexPair byte.toNat

def encodeText (kept : Nat → Bool) (value : Value) : M Value := do
  let units ← toUnits it value
  return .text (Units.ofList (← encodeUnits kept units.data.toList))

def hexValue? (unit : UInt16) : Option Nat := Number.radixDigit? 16 (Char.ofNat unit.toNat)

/-- A byte written as a percent sign and two digits at the front. -/
def percentByte? (units : List UInt16) : Option (Nat × List UInt16) :=
  match units with
  | 0x25 :: high :: low :: rest => do
    return ((← hexValue? high) * 16 + (← hexValue? low), rest)
  | _ => none

def percentByte (units : List UInt16) : M (Nat × List UInt16) := do
  match units, percentByte? units with
  | _, some found => return found
  | 0x25 :: _, none => throwAddress "expecting hex digit"
  | _, none => throwAddress "expecting %"

/-- The number of bytes behind the first one, the bits that the first one gives, and the least code
that takes so many bytes. -/
def leadByte (byte : Nat) : Nat × Nat × Nat :=
  if 0xC0 ≤ byte && byte ≤ 0xDF then (1, byte - 0xC0, 0x80)
  else if 0xE0 ≤ byte && byte ≤ 0xEF then (2, byte - 0xE0, 0x800)
  else if 0xF0 ≤ byte && byte ≤ 0xF7 then (3, byte - 0xF0, 0x10000)
  else (0, 0, 1)

/-- The code of which some bytes are left to be read; 0 if one of them belongs to no code. -/
def trailBytes : Nat → Nat → List UInt16 → M (Nat × List UInt16)
  | 0, code, rest => return (code, rest)
  | count + 1, code, rest => do
    let (byte, rest) ← percentByte rest
    if 0x80 ≤ byte && byte ≤ 0xBF then trailBytes count (code * 64 + (byte - 0x80)) rest
    else return (0, rest)

/-- Reads bytes as codes; `fuel` bounds the units. -/
def decodeUnits (kept : Nat → Bool) : Nat → List UInt16 → Array UInt16 → M Units
  | 0, _, done => return ⟨done⟩
  | _ + 1, [], done => return ⟨done⟩
  | fuel + 1, 0x25 :: rest, done => do
    let (byte, behind) ← percentByte (0x25 :: rest)
    if byte < 0x80 then
      if kept byte then decodeUnits kept fuel rest (done.push 0x25)
      else decodeUnits kept fuel behind (done.push byte.toUInt16)
    else
      let (count, bits, least) := leadByte byte
      let (code, behind) ← trailBytes count bits behind
      if code < least || 0x10FFFF < code || Units.isSurrogate code then
        throwAddress "malformed UTF-8"
      decodeUnits kept fuel behind (done ++ (Units.ofCode code).data)
  | fuel + 1, unit :: rest, done => decodeUnits kept fuel rest (done.push unit)

def decodeText (kept : Nat → Bool) (value : Value) : M Value := do
  let units ← toUnits it value
  return .text (← decodeUnits kept (units.length + 1) units.data.toList #[])

/-! ### Older forms -/

def isPlainUnit (unit : UInt16) : Bool :=
  isAsciiWord unit.toNat || "@*_+-./".toList.any (·.toNat = unit.toNat)

def hexUnit (unit : UInt16) : List Char :=
  if isPlainUnit unit then [Char.ofNat unit.toNat]
  else if unit < 256 then hexPair unit.toNat
  else ['%', 'u'] ++ (hexPair (unit.toNat / 256)).drop 1 ++ (hexPair (unit.toNat % 256)).drop 1

def unhexUnits : Nat → List UInt16 → Array UInt16 → Array UInt16
  | 0, _, done => done
  | _ + 1, [], done => done
  | fuel + 1, unit :: rest, done =>
    match unit :: rest with
    | 0x25 :: 0x75 :: a :: b :: c :: d :: behind =>
      match [a, b, c, d].mapM hexValue? with
      | some digits =>
        let unit := digits.foldl (fun value digit => value * 16 + digit) 0
        unhexUnits fuel behind (done.push unit.toUInt16)
      | none => unhexUnits fuel rest (done.push unit)
    | units =>
      match percentByte? units with
      | some (byte, behind) => unhexUnits fuel behind (done.push byte.toUInt16)
      | none => unhexUnits fuel rest (done.push unit)

/-! ### All functions -/

def globalCode : LibraryCode := fun name call => do
  match name with
  | "eval" =>
    match call.first with
    | .text units => evaluateText it (globalEnv false) units
    | other => return other
  | "parseInt" => parseInteger it call
  | "parseFloat" => return .number (Number.leading (← toUnits it call.first))
  | "isNaN" => return .bool (← toNumber it call.first).isNaN
  | "isFinite" => return .bool (Number.isFinite (← toNumber it call.first))
  | "encodeURIComponent" => encodeText it isPartCode call.first
  | "encodeURI" => encodeText it isAddressCode call.first
  | "decodeURIComponent" => decodeText it (fun _ => false) call.first
  | "decodeURI" => decodeText it isReserved call.first
  | "escape" =>
    let units ← toUnits it call.first
    return .text (Units.ofList (units.data.toList.flatMap hexUnit))
  | "unescape" =>
    let units ← toUnits it call.first
    return .text ⟨unhexUnits (units.length + 1) units.data.toList #[]⟩
  | "queueMicrotask" =>
    let _ ← requireCallable call.first
    return .undefined
  | _ => return .undefined

/-- The names of the constructors that stand together among the global names. -/
def constructorValues (intrinsics : List (String × Intrinsic)) : List LibraryMember :=
  intrinsics.map fun (name, intrinsic) => .data name intrinsic.value

def globalGroup : LibraryGroup where
  library := .global
  members :=
    constructorValues
      [("Object", .object), ("Function", .function), ("Error", .error), ("EvalError", .evalError),
        ("RangeError", .rangeError), ("ReferenceError", .referenceError),
        ("SyntaxError", .syntaxError), ("TypeError", .typeError), ("URIError", .uriError),
        ("InternalError", .internalError), ("AggregateError", .aggregateError),
        ("Iterator", .iterator), ("Array", .array)] ++
    [ .method "parseInt" 2, .method "parseFloat" 1, .method "isNaN" 1, .method "isFinite" 1,
      .method "queueMicrotask" 1, .method "decodeURI" 1, .method "decodeURIComponent" 1,
      .method "encodeURI" 1, .method "encodeURIComponent" 1, .method "escape" 1,
      .method "unescape" 1, .fixed "Infinity" (.number Number.infinity),
      .fixed "NaN" (.number Number.nan), .fixed "undefined" .undefined, .tag "global" ] ++
    constructorValues
      [("Number", .number), ("Boolean", .boolean), ("String", .text), ("Math", .math),
        ("Reflect", .reflect), ("Symbol", .symbol), ("globalThis", .global), ("Date", .date)] ++
    [.method "eval" 1] ++
    constructorValues
      [("RegExp", .regex), ("JSON", .json), ("Proxy", .proxy), ("Map", .map), ("Set", .set),
        ("WeakMap", .weakMap), ("WeakSet", .weakSet), ("ArrayBuffer", .buffer),
        ("SharedArrayBuffer", .sharedBuffer), ("Uint8ClampedArray", .uint8Clamped),
        ("Int8Array", .int8), ("Uint8Array", .uint8), ("Int16Array", .int16),
        ("Uint16Array", .uint16), ("Int32Array", .int32), ("Uint32Array", .uint32),
        ("BigInt64Array", .bigInt64), ("BigUint64Array", .bigUint64), ("Float16Array", .float16),
        ("Float32Array", .float32), ("Float64Array", .float64), ("DataView", .dataView),
        ("Atomics", .atomics), ("Promise", .promise), ("BigInt", .bigInt), ("WeakRef", .weakRef),
        ("FinalizationRegistry", .finalization)]

/-! ### Measuring -/

/-- The instant at which scripts start. -/
def timeOrigin : Float := 1700000000000

def performance : LibraryCode := fun _ _ =>
  return .number (Float.ofNat (← get).clock / Float.ofNat stepsPerMillisecond)

end Fingerprint.Script.Standard
