import Fingerprint.Script.Convert
import Fingerprint.Script.Syntax

/-!
What the operators compute.
-/

namespace Fingerprint.Script

variable (it : Interpreter)

/-! ### Arithmetic -/

def power (base exponent : Float) : Float :=
  if exponent.isNaN then Number.nan
  else if exponent == 0 then 1
  else if (base.abs == 1) && !Number.isFinite exponent then Number.nan
  else if 0 ≤ exponent && exponent ≤ 64 && Number.isInteger exponent &&
      base.abs ≤ 9007199254740992 && Number.isInteger base then
    let magnitude := Nat.pow (Number.toInt base).natAbs exponent.toUInt64.toNat
    if 1 <<< 1024 < magnitude then Float.pow base exponent
    else if base < 0 && exponent.toUInt64 % 2 == 1 then -(Float.ofNat magnitude)
    else Float.ofNat magnitude
  else Float.pow base exponent

def shiftAmount (value : Float) : UInt32 := Number.toUInt32 value % 32

def arithmetic (op : BinaryOp) (left right : Float) : Float :=
  match op with
  | .add => left + right
  | .sub => left - right
  | .mul => left * right
  | .div => left / right
  | .rem => Number.remainder left right
  | .pow => power left right
  | .bitAnd => Number.ofInt32 (Number.toUInt32 left &&& Number.toUInt32 right)
  | .bitOr => Number.ofInt32 (Number.toUInt32 left ||| Number.toUInt32 right)
  | .bitXor => Number.ofInt32 (Number.toUInt32 left ^^^ Number.toUInt32 right)
  | .shiftLeft => Number.ofInt32 (Number.toUInt32 left <<< shiftAmount right)
  | .shiftRightZero => (Number.toUInt32 left >>> shiftAmount right).toFloat
  | .shiftRight =>
    let word := Number.toUInt32 left
    let amount := shiftAmount right
    let moved := word >>> amount
    let sign := if word < 0x80000000 then 0 else ~~~ ((0xFFFFFFFF : UInt32) >>> amount)
    Number.ofInt32 (moved ||| sign)
  | _ => Number.nan

/-- The largest number of bits of an integer that is computed. -/
def integerBits : Nat := 1048576

/-- An operation on the bits of two integers, each as a number in two's complement that is wide
enough for both. -/
def onBits (op : Nat → Nat → Nat) (left right : Int) : Int :=
  let width := max left.natAbs.log2 right.natAbs.log2 + 2
  let size : Nat := 1 <<< width
  let bits := op (left % size).toNat (right % size).toNat
  if bits < size / 2 then bits else (bits : Int) - size

def throwTooLarge {α : Type} : M α := throwRange "BigInt is too large to allocate"

def shiftInteger (value : Int) (amount : Int) : M Value := do
  if value = 0 then return .bigInt 0
  else if 0 ≤ amount then
    if integerBits < amount.toNat + value.natAbs.log2 then throwTooLarge
    return .bigInt (value * (1 <<< amount.toNat : Nat))
  else if integerBits < (-amount).toNat then return .bigInt (if value < 0 then -1 else 0)
  else return .bigInt (value / (1 <<< (-amount).toNat : Nat))

def integerArithmetic (op : BinaryOp) (left right : Int) : M Value := do
  match op with
  | .add => return .bigInt (left + right)
  | .sub => return .bigInt (left - right)
  | .mul =>
    if integerBits < left.natAbs.log2 + right.natAbs.log2 then throwTooLarge
    return .bigInt (left * right)
  | .div =>
    if right = 0 then throwRange "BigInt division by zero" else return .bigInt (left.tdiv right)
  | .rem =>
    if right = 0 then throwRange "BigInt division by zero" else return .bigInt (left.tmod right)
  | .pow =>
    if right < 0 then throwRange "BigInt negative exponent"
    if 1 < left.natAbs && integerBits < right.toNat * (left.natAbs.log2 + 1) then
      throwTooLarge
    if left.natAbs ≤ 1 then
      return .bigInt (if right = 0 || left = 1 then 1 else if left = 0 then 0
        else if right % 2 = 0 then 1 else -1)
    return .bigInt (Int.pow left right.toNat)
  | .bitAnd => return .bigInt (onBits (· &&& ·) left right)
  | .bitOr => return .bigInt (onBits (· ||| ·) left right)
  | .bitXor => return .bigInt (onBits (· ^^^ ·) left right)
  | .shiftLeft => shiftInteger left right
  | .shiftRight => shiftInteger left (-right)
  | _ => throwType "BigInt operands are forbidden for >>>"

/-- Reports that only one operand is a large integer. -/
def throwMixed (op : BinaryOp) : M Value :=
  match op with
  | .bitAnd | .bitOr | .bitXor | .shiftLeft | .shiftRight =>
    throwType "both operands must be BigInt"
  | .shiftRightZero => throwType "BigInt operands are forbidden for >>>"
  | _ => throwType "cannot convert BigInt to number"

/-- An operation on two numbers, of which both or none are large integers. -/
def numeric (op : BinaryOp) (left right : Value) : M Value := do
  match left, right with
  | .number left, .number right => return .number (arithmetic op left right)
  | left, right =>
    match ← toNumeric it left, ← toNumeric it right with
    | .number left, .number right => return .number (arithmetic op left right)
    | .bigInt left, .bigInt right => integerArithmetic op left right
    | _, _ => throwMixed op

/-- The bytes that a text takes. -/
def textBytes (units : Units) : Nat :=
  if units.data.all (· < 256) then units.length else 2 * units.length

/-- Texts joined; their length is bounded by the memory. -/
def joinUnits (left right : Units) : M Value := do
  let size := left.length + right.length
  if 1073741823 < size then throwRange "invalid string length"
  if 65536 < size then
    spend (size / 512)
    reserve (textBytes left + textBytes right)
  return .text (left ++ right)

def add (left right : Value) : M Value := do
  match left, right with
  | .number left, .number right => return .number (left + right)
  | .text left, .text right => joinUnits left right
  | left, right =>
    let left ← toPrimitive it .unspecified left
    let right ← toPrimitive it .unspecified right
    match left, right with
    | .text left, right => joinUnits left (← primitiveUnits right)
    | left, .text right => joinUnits (← primitiveUnits left) right
    | left, right => numeric it .add left right

/-! ### Comparison -/

/-- Whether a number is less than an integer, unless it is none. -/
def numberLessInteger (left : Float) (right : Int) : Option Bool :=
  if left.isNaN then none
  else if !Number.isFinite left then some (left < 0)
  else
    let whole := Number.toInt left.floor
    some (whole < right)

def integerLessNumber (left : Int) (right : Float) : Option Bool :=
  if right.isNaN then none
  else if !Number.isFinite right then some (0 < right)
  else some (left < Number.toInt right.ceil)

def numberLess (left right : Float) : Option Bool :=
  if left.isNaN || right.isNaN then none else some (left < right)

/-- Whether a value is less than another one, unless they cannot be compared. -/
def primitiveLess (left right : Value) : M (Option Bool) := do
  match left, right with
  | .text left, .text right => return some (left.less right)
  | .bigInt left, .text right => return (Number.integerOfUnits? right).map (decide <| left < ·)
  | .text left, .bigInt right => return (Number.integerOfUnits? left).map (decide <| · < right)
  | .bigInt left, .bigInt right => return some (left < right)
  | .bigInt left, right => return integerLessNumber left (← primitiveNumber right)
  | left, .bigInt right => return numberLessInteger (← primitiveNumber left) right
  | left, right => return numberLess (← primitiveNumber left) (← primitiveNumber right)

def compare (op : BinaryOp) (left right : Value) : M Bool := do
  match left, right with
  | .number left, .number right =>
    match op with
    | .less => return left < right
    | .greater => return right < left
    | .lessEq => return left ≤ right
    | _ => return right ≤ left
  | left, right =>
    let left ← toPrimitive it .number left
    let right ← toPrimitive it .number right
    match op with
    | .less => return (← primitiveLess left right) == some true
    | .greater => return (← primitiveLess right left) == some true
    | .lessEq => return (← primitiveLess right left) == some false
    | _ => return (← primitiveLess left right) == some false

/-- Whether a number and an integer are equal. -/
def numberIsInteger (left : Float) (right : Int) : Bool :=
  Number.isInteger left && Number.toInt left == right

/-- Whether values of two types other than objects are equal, as `==` sees it. -/
def primitiveEqual (left right : Value) : Bool :=
  match left, right with
  | .undefined, .null | .null, .undefined => true
  | .number left, .text right => left == Number.ofUnits right
  | .text left, .number right => Number.ofUnits left == right
  | .bigInt left, .text right => Number.integerOfUnits? right == some left
  | .text left, .bigInt right => Number.integerOfUnits? left == some right
  | .number left, .bigInt right => numberIsInteger left right
  | .bigInt left, .number right => numberIsInteger right left
  | left, right => left.same right

/-- A truth value as a number. -/
def unbool : Value → Value
  | .bool value => .number (if value then 1 else 0)
  | other => other

/-- Whether two values are equal, as `==` sees it. -/
def looseEqual (left right : Value) : M Bool := do
  match left, right with
  | .object left, .object right => return left == right
  | .object _, .undefined | .object _, .null | .undefined, .object _ | .null, .object _ =>
    return false
  | .object _, right =>
    return primitiveEqual (unbool (← toPrimitive it .unspecified left)) (unbool right)
  | left, .object _ =>
    return primitiveEqual (unbool left) (unbool (← toPrimitive it .unspecified right))
  | .bool _, .bool _ => return left.same right
  | left, right => return primitiveEqual (unbool left) (unbool right)

/-! ### Objects -/

/-- Whether a value was made by a constructor, or by one that inherits from it; `depth` bounds the
functions that are bound to others. -/
def madeBy (value constructor : Value) : Nat → M Bool
  | 0 => return false
  | depth + 1 => do
    match constructor with
    | .object ref =>
      match (← getObject ref).kind with
      | .bound target .. => madeBy value (.object target) depth
      | _ =>
        match value with
        | .object object =>
          match ← getProperty it ref "prototype" with
          | .object prototype => inherits it inheritanceLimit object prototype
          | _ => throwType "operand 'prototype' property is not an object"
        | _ => return false
    | _ => return false

def instanceOf (value constructor : Value) : M Bool := do
  match constructor with
  | .object _ =>
    match ← methodOf? it constructor WellKnownSymbol.hasInstance.key with
    | some method => return (← it.call method constructor #[value]).isTruthy
    | none =>
      if ← isCallable constructor then madeBy it value constructor 100
      else throwType "invalid 'instanceof' right operand"
  | _ => throwType "invalid 'instanceof' right operand"

def isIn (key object : Value) : M Bool := do
  match object with
  | .object ref => hasProperty it ref (← toKey it key)
  | _ => throwType "invalid 'in' operand"

/-- What an operator computes of two values. -/
def binary (op : BinaryOp) (left right : Value) : M Value := do
  match op with
  | .add => add it left right
  | .less | .greater | .lessEq | .greaterEq => return .bool (← compare it op left right)
  | .same => return .bool (left.same right)
  | .notSame => return .bool (!left.same right)
  | .equal => return .bool (← looseEqual it left right)
  | .notEqual => return .bool (!(← looseEqual it left right))
  | .instanceOf => return .bool (← instanceOf it left right)
  | .isIn => return .bool (← isIn it left right)
  | _ => numeric it op left right

def unary (op : UnaryOp) (value : Value) : M Value := do
  match op with
  | .plus =>
    match ← toNumeric it value with
    | .bigInt _ => throwType "BigInt argument with unary +"
    | number => return number
  | .not => return .bool (!value.isTruthy)
  | .void => return .undefined
  | .load => return .object (← allocate (.ofKind (some Intrinsic.promisePrototype.ref) .promise))
  | .minus =>
    match ← toNumeric it value with
    | .bigInt integer => return .bigInt (-integer)
    | .number number => return .number (-number)
    | other => return other
  | .bitNot =>
    match ← toNumeric it value with
    | .bigInt integer => return .bigInt (-integer - 1)
    | .number number => return .number (Number.ofInt32 (~~~ Number.toUInt32 number))
    | other => return other

end Fingerprint.Script
