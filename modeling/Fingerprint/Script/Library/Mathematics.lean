import Fingerprint.Script.Library.Basic
import Fingerprint.Script.Precise

/-!
The functions of `Math`.
-/

namespace Fingerprint.Script.Standard

variable (it : Interpreter)

/-- Rounds to the nearest integer, a half upward. -/
def roundHalfUp (value : Float) : Float :=
  if !Number.isFinite value || 4503599627370496 ≤ value.abs then value
  else
    let low := value.floor
    let result := if value - low < 0.5 then low else low + 1
    if result == 0 && (value < 0 || value.toBits == (-0.0 : Float).toBits) then -0.0 else result

def sign (value : Float) : Float :=
  if value.isNaN || value == 0 then value else if value < 0 then -1 else 1

/-- The larger of two numbers; the positive zero is larger than the negative one. -/
def larger (left right : Float) : Float :=
  if left.isNaN || right.isNaN then Number.nan
  else if left == 0 && right == 0 then (if left.toBits == 0 then left else right)
  else if left < right then right else left

def smaller (left right : Float) : Float :=
  if left.isNaN || right.isNaN then Number.nan
  else if left == 0 && right == 0 then (if left.toBits == 0 then right else left)
  else if right < left then right else left

/-- The nearest number of single precision. -/
def single (value : Float) : Float := value.toFloat32.toFloat

def leadingZeros (word : UInt32) : Nat := if word = 0 then 32 else 31 - word.toNat.log2

/-- The next number of a sequence without a visible pattern, from 0 to below 1. -/
def random : M Float := do
  let seed := (← get).seed
  let next := seed * 6364136223846793005 + 1442695040888963407
  modify fun machine => { machine with seed := next }
  return (next >>> 11).toFloat / 9007199254740992

/-- The functions of one number. -/
def unaryMath? (name : String) : Option (Float → Float) :=
  match name with
  | "abs" => some Float.abs
  | "floor" => some Float.floor
  | "ceil" => some Float.ceil
  | "round" => some roundHalfUp
  | "trunc" => some Number.truncate
  | "sign" => some sign
  | "sqrt" => some Float.sqrt
  | "cbrt" => some Number.cubeRoot
  | "sin" => some Float.sin
  | "cos" => some Float.cos
  | "tan" => some Float.tan
  | "asin" => some Float.asin
  | "acos" => some Float.acos
  | "atan" => some Float.atan
  | "sinh" => some Float.sinh
  | "cosh" => some Float.cosh
  | "tanh" => some Float.tanh
  | "asinh" => some Float.asinh
  | "acosh" => some Float.acosh
  | "atanh" => some Float.atanh
  | "exp" => some Float.exp
  | "expm1" => some Number.expLessOne
  | "log" => some Float.log
  | "log2" => some Float.log2
  | "log10" => some Float.log10
  | "log1p" => some Number.logOnePlus
  | "fround" => some single
  | "f16round" => some fun value => ofHalfBits (halfBits value)
  | "clz32" => some fun value => Float.ofNat (leadingZeros (Number.toUInt32 value))
  | _ => none

def numbers (values : Array Value) : M (Array Float) := values.mapM (toNumber it)

/-- The length of a vector, scaled so that no square overflows. -/
def hypotenuse (values : Array Float) : Float :=
  if values.any fun value => !value.isNaN && !Number.isFinite value then Number.infinity
  else
    let largest := values.foldl (fun found value => larger found value.abs) 0
    if largest == 0 || largest.isNaN then largest
    else
      let squares := values.map fun value => (value / largest) * (value / largest)
      (squares.foldl (· + ·) 0).sqrt * largest

/-- The sum of the items of a value, rounded once; only negative zeros make a negative zero. -/
def preciseSum (items : Value) : M Float := do
  let values ← eachItem it items [] (fun found item =>
    match item with
    | .number value => return .inl (value :: found)
    | _ => throwType "not a number") pure
  let isNegativeZero (value : Float) : Bool := value.toBits == (-0.0 : Float).toBits
  let infinite := values.filter fun value => !Number.isFinite value
  match infinite with
  | [] => return if values.all isNegativeZero then -0.0 else Number.exactSum values
  | first :: rest => return if rest.all (· == first) then first else Number.nan

def mathematics : LibraryCode := fun name call => do
  match name with
  | "max" => return .number ((← numbers it call.arguments).foldl larger (-Number.infinity))
  | "min" => return .number ((← numbers it call.arguments).foldl smaller Number.infinity)
  | "pow" =>
    let base ← toNumber it call.first
    return .number (power base (← toNumber it call.second))
  | "atan2" =>
    let rise ← toNumber it call.first
    return .number (Float.atan2 rise (← toNumber it call.second))
  | "imul" =>
    let left ← toNumber it call.first
    let right ← toNumber it call.second
    return .number (Number.ofInt32 (Number.toUInt32 left * Number.toUInt32 right))
  | "hypot" => return .number (hypotenuse (← numbers it call.arguments))
  | "random" => return .number (← random)
  | "sumPrecise" => return .number (← preciseSum it call.first)
  | name =>
    match unaryMath? name with
    | some function => return .number (function (← toNumber it call.first))
    | none => return .undefined

def mathematicsConstants : List (String × Float) :=
  [("E", 2.718281828459045), ("LN10", 2.302585092994046), ("LN2", 0.6931471805599453),
    ("LOG2E", 1.4426950408889634), ("LOG10E", 0.4342944819032518), ("PI", 3.141592653589793),
    ("SQRT1_2", 0.7071067811865476), ("SQRT2", 1.4142135623730951)]

def mathematicsGroup : LibraryGroup :=
  (LibraryGroup.ofList .math
    [("min", 2), ("max", 2), ("abs", 1), ("floor", 1), ("ceil", 1), ("round", 1), ("sqrt", 1),
      ("acos", 1), ("asin", 1), ("atan", 1), ("atan2", 2), ("cos", 1), ("exp", 1), ("log", 1),
      ("pow", 2), ("sin", 1), ("tan", 1), ("trunc", 1), ("sign", 1), ("cosh", 1), ("sinh", 1),
      ("tanh", 1), ("acosh", 1), ("asinh", 1), ("atanh", 1), ("expm1", 1), ("log1p", 1),
      ("log2", 1), ("log10", 1), ("cbrt", 1), ("hypot", 2), ("random", 0), ("f16round", 1),
      ("fround", 1), ("imul", 2), ("clz32", 1), ("sumPrecise", 1)]).append
    (.tag "Math" :: mathematicsConstants.map fun (name, value) => .fixed name (.number value))

end Fingerprint.Script.Standard
