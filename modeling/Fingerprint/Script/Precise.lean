import Fingerprint.Decimal.Double
import Fingerprint.Script.Number

/-!
Functions of numbers whose results are exact but for the last rounding, or nearly so.

The exponential and the logarithm near the point where their results vanish follow the usual scheme:
the argument is brought into a small interval around zero, where a quotient of polynomials is close
enough, and what was taken away is added to the result.
-/

namespace Fingerprint.Script.Number

/-! ### Exact numbers -/

/-- A number without a fraction times a power of two, rounded to the nearest number. Of numbers with
more than 62 bits the lower ones count only as far as they are not all zero. -/
def ofScaled (mantissa : Nat) (exponent : Int) : Float :=
  let excess := mantissa.log2 - 61
  let rest := mantissa % (1 <<< excess)
  let kept := mantissa >>> excess
  let sticky := if rest = 0 then kept else kept ||| 1
  Float.scaleB (Float.ofNat sticky) (exponent + excess)

/-- A finite number in units of the smallest one. -/
def toUnits (value : Float) : Int :=
  match Decimal.kindOfBits value.toBits with
  | .finite negative parts =>
    let units := (parts.mantissa <<< (parts.exponent + 1074).toNat : Nat)
    if negative then -units else units
  | _ => 0

/-- The sum of finite numbers, rounded once. -/
def exactSum (values : List Float) : Float :=
  let sum := values.foldl (fun sum value => sum + toUnits value) 0
  let size := ofScaled sum.natAbs (-1074)
  if sum < 0 then -size else size

/-- The largest number of `bits` bits whose cube is at most `cube`, from the highest bit on. -/
def cubeRootFloor (cube : Nat) : Nat → Nat → Nat
  | 0, root => root
  | bits + 1, root =>
    let larger := root + (1 <<< bits)
    cubeRootFloor cube bits (if larger * larger * larger ≤ cube then larger else root)

/-- The cube root, rounded once. -/
def cubeRoot (value : Float) : Float :=
  match Decimal.kindOfBits value.toBits with
  | .finite negative parts =>
    if parts.mantissa = 0 then value
    else
      -- the exponent becomes one that three divides, and the root gets about 59 bits
      let shift := 177 - parts.mantissa.log2
      let shift := shift + ((parts.exponent - shift) % 3).toNat
      let cube := parts.mantissa <<< shift
      let root := cubeRootFloor cube 61 0
      let sticky := if root * root * root = cube then 2 * root else 2 * root + 1
      let size := ofScaled sticky ((parts.exponent - shift) / 3 - 1)
      if negative then -size else size
  | _ => value

/-! ### Near zero -/

/-- The logarithm of 2 in two parts, of which the first has few digits. -/
def logTwoHigh : Float := 6.93147180369123816490e-01

def logTwoLow : Float := 1.90821492927058770002e-10

/-- The argument of an exponential without a multiple of the logarithm of 2, the error of what is
left, and the multiple. -/
def reduceExponent (value : Float) : Float × Float × Int :=
  let (high, low, multiple) : Float × Float × Int :=
    if value.abs < 1.0397207708399179 then
      if 0 < value then (value - logTwoHigh, logTwoLow, 1) else (value + logTwoHigh, -logTwoLow, -1)
    else
      let multiple := truncate (1.44269504088896338700 * value + (if 0 < value then 0.5 else -0.5))
      (value - multiple * logTwoHigh, multiple * logTwoLow, toInt multiple)
  let rest := high - low
  (rest, (high - rest) - low, multiple)

/-- The exponential less 1 of a small number, as the number less a part that is squared, and the
correction of that. -/
def smallExponent (value : Float) : Float × Float :=
  let half := 0.5 * value
  let square := value * half
  let second := square * square
  let fourth := second * second
  let first := 1.0 + square * -3.33333333333331316428e-02
  let middle := 1.58730158725481460165e-03 + square * -7.93650757867487942473e-05
  let last := 4.00821782732936239552e-06 + square * -2.01099218183624371326e-07
  let quotient := first + second * middle + fourth * last
  let turn := 3.0 - quotient * half
  (square, square * ((quotient - turn) / (6.0 - value * turn)))

/-- The exponential of a number less 1. -/
def expLessOne (value : Float) : Float :=
  if value.isNaN || value.abs < 5.551115123125783e-17 then value
  else if 709.782712893384 < value then infinity
  else if value < -38.816242111356935 then -1
  else if value.abs ≤ 0.34657359027997264 then
    let (square, correction) := smallExponent value
    value - (value * correction - square)
  else
    let (rest, missing, multiple) := reduceExponent value
    let (square, correction) := smallExponent rest
    let error := rest * (correction - missing) - missing - square
    if multiple = -1 then 0.5 * (rest - error) - 0.5
    else if multiple = 1 then
      if rest < -0.25 then -2.0 * (error - (rest + 0.5)) else 1.0 + 2.0 * (rest - error)
    else if multiple ≤ -2 || 56 < multiple then
      Float.scaleB (1.0 - (error - rest)) multiple - 1.0
    else if multiple < 20 then
      Float.scaleB ((1.0 - Float.scaleB 1.0 (-multiple)) - (error - rest)) multiple
    else Float.scaleB (rest - (error + Float.scaleB 1.0 (-multiple)) + 1.0) multiple

/-- A number near 1 less 1, times a power of two, and the error of that. -/
def reduceLogarithm (value : Float) : Float × Float × Int :=
  if -0.29289321881345254 < value && value < 0.4142135623730950 then (value, 0, 0)
  else
    let sum := if value < 9007199254740992 then 1.0 + value else value
    let power : Int := ((sum.toBits >>> 52).toNat % 2048 : Nat) - 1023
    let missing :=
      if value < 9007199254740992 then
        (if 0 < power then 1.0 - (sum - value) else value - (sum - 1.0)) / sum
      else 0
    let fraction := sum.toBits &&& 0xFFFFFFFFFFFFF
    if fraction < 0x6A09E00000000 then
      (Float.ofBits (fraction ||| 0x3FF0000000000000) - 1.0, missing, power)
    else (Float.ofBits (fraction ||| 0x3FE0000000000000) - 1.0, missing, power + 1)

/-- The logarithm of a number and 1. -/
def logOnePlus (value : Float) : Float :=
  if value.isNaN || value == infinity then value
  else if value < -1 then nan
  else if value == -1 then -infinity
  else if value.abs < 5.551115123125783e-17 then value
  else if value.abs < 1.862645149230957e-9 then value - value * value * 0.5
  else
    let (rest, missing, power) := reduceLogarithm value
    let scale := Float.ofInt power
    let square := 0.5 * rest * rest
    if rest == 0 then scale * logTwoHigh + (missing + scale * logTwoLow)
    else
      let quotient := rest / (2.0 + rest)
      let z := quotient * quotient
      let series := z * (6.666666666666735130e-01 + z * (3.999999999940941908e-01 +
        z * (2.857142874366239149e-01 + z * (2.222219843214978396e-01 +
        z * (1.818357216161805012e-01 + z * (1.531383769920937332e-01 +
        z * 1.479819860511658591e-01))))))
      if power = 0 then rest - (square - quotient * (square + series))
      else
        scale * logTwoHigh -
          ((square - (quotient * (square + series) + (scale * logTwoLow + missing))) - rest)

end Fingerprint.Script.Number
