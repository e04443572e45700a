import Fingerprint.Script.Library.Basic
import Fingerprint.Script.NumberFormat

/-!
The functions of numbers, truth values, large integers and symbols.
-/

namespace Fingerprint.Script.Standard

variable (it : Interpreter)

/-! ### Numbers -/

/-- The number that a method is called on. -/
def thisNumber (this : Value) : M Float := do
  match this with
  | .number value => return value
  | .object ref =>
    match (← getObject ref).kind with
    | .wrapped (.number value) => return value
    | _ => throwType "not a number"
  | _ => throwType "not a number"

/-- A radix; 10 if none is given. -/
def radixArgument (value : Value) : M Nat := do
  if value.isUndefined then return 10
  let radix ← toIntegral it value
  if radix < 2 || 36 < radix then throwRange "radix must be between 2 and 36"
  return radix.toUInt64.toNat

/-- A number of digits between two bounds. -/
def digitsArgument (value : Value) (least most : Nat) (message : String) : M Nat := do
  let count ← toIntegral it value
  if count < Float.ofNat least || Float.ofNat most < count then throwRange message
  return count.toUInt64.toNat

def isSafe (value : Float) : Bool := Number.isInteger value && value.abs ≤ 9007199254740991

def testNumber (value : Value) (test : Float → Bool) : Value :=
  match value with
  | .number number => .bool (test number)
  | _ => .bool false

def wrapNew (call : LibraryCall) (standard : Intrinsic) (value : Value) : M Value := do
  if call.isConstruction then
    let prototype ← prototypeFor it call.newTarget standard
    return .object (← allocate (.ofKind (some prototype) (.wrapped value)))
  else return value

def newNumber (call : LibraryCall) : M Value := do
  let value ← if call.arguments.isEmpty then pure (Value.number 0)
    else
      match ← toNumeric it call.first with
      | .bigInt value => pure (.number (Float.ofInt value))
      | other => pure other
  wrapNew it call .numberPrototype value

def parseInteger (call : LibraryCall) : M Value := do
  let text ← toUnits it call.first
  let radix := Number.toUInt32 (← toNumber it call.second)
  if radix = 0 then return .number (Number.leadingInteger text 0)
  else if radix < 2 || 36 < radix then return .number Number.nan
  else return .number (Number.leadingInteger text radix.toNat)

def number : LibraryCode := fun name call => do
  match name with
  | "isInteger" => return testNumber call.first Number.isInteger
  | "isSafeInteger" => return testNumber call.first isSafe
  | "isFinite" => return testNumber call.first Number.isFinite
  | "isNaN" => return testNumber call.first Float.isNaN
  | _ => newNumber it call

def numberGroup : LibraryGroup where
  library := .number
  members :=
    [ .global "parseInt", .global "parseFloat", .method "isNaN" 1, .method "isFinite" 1,
      .method "isInteger" 1, .method "isSafeInteger" 1,
      .fixed "MAX_VALUE" (.number 1.7976931348623157e308), .fixed "MIN_VALUE" (.number 5e-324),
      .fixed "NaN" (.number Number.nan), .fixed "NEGATIVE_INFINITY" (.number (-Number.infinity)),
      .fixed "POSITIVE_INFINITY" (.number Number.infinity),
      .fixed "EPSILON" (.number 2.220446049250313e-16),
      .fixed "MAX_SAFE_INTEGER" (.number 9007199254740991),
      .fixed "MIN_SAFE_INTEGER" (.number (-9007199254740991)) ]

def numberPrototype : LibraryCode := fun name call => do
  let value ← thisNumber call.this
  match name with
  | "toString" => return .ofText (Number.radixText value (← radixArgument it call.first))
  | "toLocaleString" => return .ofText (Number.text value)
  | "toFixed" =>
    let count ←
      digitsArgument it call.first 0 100 "toFixed() digits argument must be between 0 and 100"
    return .ofText (Number.fixed value count)
  | "toExponential" =>
    if call.first.isUndefined then return .ofText (Number.exponential value none)
    let count ← toIntegral it call.first
    if !Number.isFinite value then return .ofText (Number.text value)
    if count < 0 || 100 < count then throwRange "toExponential() argument must be between 0 and 100"
    return .ofText (Number.exponential value (some count.toUInt64.toNat))
  | "toPrecision" =>
    if call.first.isUndefined then return .ofText (Number.text value)
    let count ← toIntegral it call.first
    if !Number.isFinite value then return .ofText (Number.text value)
    if count < 1 || 100 < count then throwRange "toPrecision() argument must be between 1 and 100"
    return .ofText (Number.precise value count.toUInt64.toNat)
  | _ => return .number value

def numberPrototypeGroup : LibraryGroup := .ofList .numberPrototype
  [("toExponential", 1), ("toFixed", 1), ("toPrecision", 1), ("toString", 1), ("toLocaleString", 0),
    ("valueOf", 0)]

/-! ### Truth values -/

def boolean : LibraryCode := fun _ call =>
  wrapNew it call .booleanPrototype (.bool call.first.isTruthy)

def thisBool (this : Value) : M Bool := do
  match this with
  | .bool value => return value
  | .object ref =>
    match (← getObject ref).kind with
    | .wrapped (.bool value) => return value
    | _ => throwType "not a boolean"
  | _ => throwType "not a boolean"

def booleanPrototype : LibraryCode := fun name call => do
  let value ← thisBool call.this
  match name with
  | "toString" => return .ofText (if value then "true" else "false")
  | _ => return .bool value

def booleanPrototypeGroup : LibraryGroup :=
  .ofList .booleanPrototype [("toString", 0), ("valueOf", 0)]

/-! ### Large integers -/

/-- The large integer of a value, which may also be a number without a fraction. -/
def integerOf (value : Value) : M Int := do
  match ← toPrimitive it .number value with
  | .number number =>
    if Number.isInteger number then return Number.toInt number
    else if Number.isFinite number then throwRange "cannot convert to BigInt: not an integer"
    else throwRange "cannot convert NaN or Infinity to BigInt"
  | other => toBigInt it other

/-- An integer modulo a power of two, with or without a sign. Every integer fits into more bits than
integers can have, unless it gets another sign. -/
def wrapBits (signed : Bool) (bits : Nat) (value : Int) : M Int := do
  if bits = 0 then return 0
  else if integerBits < bits then
    if signed || 0 ≤ value then return value else throwTooLarge
  else
    let rest := value % (1 <<< bits : Nat)
    return if signed && (1 <<< (bits - 1) : Nat) ≤ rest then rest - (1 <<< bits : Nat) else rest

def bigInt : LibraryCode := fun name call => do
  match name with
  | "asIntN" =>
    let bits ← toIndex it call.first
    return .bigInt (← wrapBits true bits (← toBigInt it call.second))
  | "asUintN" =>
    let bits ← toIndex it call.first
    return .bigInt (← wrapBits false bits (← toBigInt it call.second))
  | _ =>
    if call.isConstruction then throwType "not a constructor"
    return .bigInt (← integerOf it call.first)

def bigIntGroup : LibraryGroup := .ofList .bigInt [("asUintN", 2), ("asIntN", 2)]

def thisBigInt (this : Value) : M Int := do
  match this with
  | .bigInt value => return value
  | .object ref =>
    match (← getObject ref).kind with
    | .wrapped (.bigInt value) => return value
    | _ => throwType "not a BigInt"
  | _ => throwType "not a BigInt"

def bigIntPrototype : LibraryCode := fun name call => do
  let value ← thisBigInt call.this
  match name with
  | "toString" => return .ofText (Number.integerText (← radixArgument it call.first) value)
  | _ => return .bigInt value

def bigIntPrototypeGroup : LibraryGroup :=
  ⟨.bigIntPrototype, [.method "toString" 0, .method "valueOf" 0, .tag "BigInt"]⟩

/-! ### Symbols -/

def newSymbol (description : Option Units) : M Nat := do
  let id := (← get).symbols.size
  modify fun machine => { machine with symbols := machine.symbols.push description }
  return id

def thisSymbol (this : Value) : M Nat := do
  match this with
  | .symbol id => return id
  | .object ref =>
    match (← getObject ref).kind with
    | .wrapped (.symbol id) => return id
    | _ => throwType "not a symbol"
  | _ => throwType "not a symbol"

def symbol : LibraryCode := fun name call => do
  match name with
  | "for" =>
    let description ← toUnits it call.first
    match (← get).registered.find? (·.1 == description) with
    | some (_, id) => return .symbol id
    | none =>
      let id ← newSymbol (some description)
      modify fun machine => { machine with registered := (description, id) :: machine.registered }
      return .symbol id
  | "keyFor" =>
    match call.first with
    | .symbol id =>
      match (← get).registered.find? (·.2 == id) with
      | some (description, _) => return .text description
      | none => return .undefined
    | _ => throwType "not a symbol"
  | _ =>
    if call.isConstruction then throwType "not a constructor"
    let description ← if call.first.isUndefined then pure none
      else do pure (some (← toUnits it call.first))
    return .symbol (← newSymbol description)

def symbolGroup : LibraryGroup where
  library := .symbol
  members :=
    [.method "for" 1, .method "keyFor" 1] ++
      WellKnownSymbol.all.map fun (symbol, name) => .fixed name (.symbol symbol.id)

def symbolPrototype : LibraryCode := fun name call => do
  let id ← thisSymbol call.this
  let description := ((← get).symbols[id]?).join
  match name with
  | "toString" => return .text ("Symbol(" ++ description.getD .empty ++ ")")
  | "get description" =>
    match description with
    | some units => return .text units
    | none => return .undefined
  | _ => return .symbol id

def symbolPrototypeGroup : LibraryGroup where
  library := .symbolPrototype
  members :=
    [.method "toString" 0, .method "valueOf" 0, .keyed .toPrimitive 1, .getter "description",
      .tag "Symbol"]

end Fingerprint.Script.Standard
