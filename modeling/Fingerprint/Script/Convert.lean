import Fingerprint.Script.Access
import Fingerprint.Script.Number

/-!
Conversions between the types of values.
-/

namespace Fingerprint.Script

/-- What an object is to be converted to. -/
inductive Hint where
  | unspecified
  | number
  | text
deriving DecidableEq, Repr

def Hint.name : Hint → String
  | .unspecified => "default"
  | .number => "number"
  | .text => "string"

namespace Value

/-- Whether a value counts as true. -/
def isTruthy : Value → Bool
  | .undefined | .null => false
  | .bool value => value
  | .number value => !(value == 0 || value.isNaN)
  | .bigInt value => value ≠ 0
  | .text units => !units.isEmpty
  | .symbol _ | .object _ => true

end Value

def Object.isCallable (object : Object) : Bool :=
  match object.kind with
  | .closure _ | .native _ | .linked .. | .bound .. => true
  | .proxy _ isCallable _ => isCallable
  | _ => false

def isCallable : Value → M Bool
  | .object ref => return (← getObject ref).isCallable
  | _ => return false

def throwRevoked {α : Type} : M α := throwType "revoked proxy"

/-- Whether an object is an array, or leaves what is done with it to a handler for one; `depth`
bounds the handlers. -/
def isArrayObject : Nat → Ref → M Bool
  | 0, _ => throwOverflow
  | depth + 1, ref => do
    match (← getObject ref).kind with
    | .array .. => return true
    | .proxy (some (target, _)) .. => isArrayObject depth target
    | .proxy none .. => throwRevoked
    | _ => return false

def isArray : Value → M Bool
  | .object ref => isArrayObject inheritanceLimit ref
  | _ => return false

variable (it : Interpreter)

/-- The method of a value, unless there is none. -/
def methodOf? (base : Value) (key : Key) : M (Option Value) := do
  match ← getOf it base key with
  | .undefined | .null => return none
  | method => if ← isCallable method then return some method else throwType "not a function"

/-- Calls a method of a value. -/
def invoke (base : Value) (key : Key) (arguments : Array Value) : M Value := do
  it.call (← getOf it base key) base arguments

/-- The first value other than an object that the methods of an object yield. -/
def ordinaryPrimitive (object : Value) : List Key → M Value
  | [] => throwType "toPrimitive"
  | key :: rest => do
    let method ← getOf it object key
    if ← isCallable method then
      match ← it.call method object #[] with
      | .object _ => ordinaryPrimitive object rest
      | value => return value
    else ordinaryPrimitive object rest

/-- A value other than an object. -/
def toPrimitive (hint : Hint) (value : Value) : M Value := do
  match value with
  | .object _ =>
    match ← methodOf? it value WellKnownSymbol.toPrimitive.key with
    | some method =>
      match ← it.call method value #[.ofText hint.name] with
      | .object _ => throwType "toPrimitive"
      | found => return found
    | none =>
      let keys : List Key := match hint with
        | .text => ["toString", "valueOf"]
        | _ => ["valueOf", "toString"]
      ordinaryPrimitive it value keys
  | other => return other

/-- The text of a value other than an object. -/
def primitiveUnits : Value → M Units
  | .undefined => return "undefined"
  | .null => return "null"
  | .bool value => return if value then "true" else "false"
  | .number value => return Number.text value
  | .bigInt value => return toString value
  | .text units => return units
  | .symbol _ => throwType "cannot convert symbol to string"
  | .object _ => return "[object Object]"

def toUnits (value : Value) : M Units := do
  match value with
  | .text units => return units
  | .object _ => primitiveUnits (← toPrimitive it .text value)
  | other => primitiveUnits other

/-- The number of a value other than an object. -/
def primitiveNumber : Value → M Float
  | .undefined => return Number.nan
  | .null => return 0
  | .bool value => return if value then 1 else 0
  | .number value => return value
  | .bigInt _ => throwType "cannot convert BigInt to number"
  | .text units => return Number.ofUnits units
  | .symbol _ => throwType "cannot convert symbol to number"
  | .object _ => return Number.nan

def toNumber (value : Value) : M Float := do
  match value with
  | .number number => return number
  | .object _ => primitiveNumber (← toPrimitive it .number value)
  | other => primitiveNumber other

/-- A number or a large integer. -/
def toNumeric (value : Value) : M Value := do
  match ← toPrimitive it .number value with
  | .bigInt integer => return .bigInt integer
  | other => return .number (← primitiveNumber other)

/-- The key of a property that a value denotes. -/
def toKey (value : Value) : M Key := do
  match value with
  | .text units => return .ofUnits units
  | .number number =>
    if 0 ≤ number && number < 4294967295 && number == number.floor then
      return .index number.toUInt64.toNat
    else return .ofUnits (Number.text number)
  | _ =>
    match ← toPrimitive it .text value with
    | .symbol id => return .symbol id
    | other => return .ofUnits (← primitiveUnits other)

/-- An object around a value. -/
def wrap (prototype : Intrinsic) (value : Value) : M Ref :=
  allocate (.ofKind (some prototype.ref) (.wrapped value))

/-- An object with the properties of a value. -/
def toObject (value : Value) : M Ref := do
  match value with
  | .object ref => return ref
  | other =>
    match prototypeOf? other with
    | some prototype => wrap prototype other
    | none => throwType "Cannot convert undefined or null to object"

/-- The integer part of a number; no number counts as 0. -/
def toIntegral (value : Value) : M Float := return Number.integral (← toNumber it value)

/-- A number of items; the largest one is `2 ^ 53 - 1`. -/
def toLength (value : Value) : M Nat := do
  let number ← toIntegral it value
  if number ≤ 0 then return 0
  else return (min number 9007199254740991).toUInt64.toNat

/-- The number of items of an object that is like an array. -/
def lengthOf (ref : Ref) : M Nat := do
  match (← getObject ref).kind with
  | .array _ length _ => return length
  | _ => toLength it (← getProperty it ref "length")

/-- The largest number of arguments that are given as one list. -/
def argumentLimit : Nat := 65534

def checkArguments (count : Nat) : M Unit := do
  if argumentLimit < count then
    throwRange ("too many arguments in function call (only " ++ toString argumentLimit ++
      " allowed)")

/-- The items of an object that is like an array. -/
def listItems (ref : Ref) : M (Array Value) := do
  let length ← lengthOf it ref
  reserve (length * itemBytes)
  repeatLoop ((#[] : Array Value), 0) fun (found, place) => do
    if place < length then
      return .inl (found.push (← getProperty it ref (.index place)), place + 1)
    else return .inr found

/-! ### Kinds of values -/

/-- What `typeof` says. -/
def typeName : Value → M String
  | .undefined => return "undefined"
  | .null => return "object"
  | .bool _ => return "boolean"
  | .number _ => return "number"
  | .bigInt _ => return "bigint"
  | .text _ => return "string"
  | .symbol _ => return "symbol"
  | .object ref => return if (← getObject ref).isCallable then "function" else "object"

end Fingerprint.Script
