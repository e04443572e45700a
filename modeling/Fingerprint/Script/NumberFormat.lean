import Fingerprint.Script.Number

/-!
Texts of numbers in other forms: with a fixed number of digits, or in another radix. A half is
rounded away from zero.
-/

namespace Fingerprint.Script.Number

open Decimal (Parts kindOfBits)

/-- A positive number as a fraction. -/
def fraction (parts : Parts) : Nat × Nat :=
  if 0 ≤ parts.exponent then (parts.mantissa <<< parts.exponent.toNat, 1)
  else (parts.mantissa, 1 <<< (-parts.exponent).toNat)

/-- The quotient of naturals, a half rounded up. -/
def roundDiv (numerator denominator : Nat) : Nat :=
  (2 * numerator + denominator) / (2 * denominator)

def zeros (count : Nat) : String := String.ofList (List.replicate count '0')

/-- Digits with a point in front of the last `count`. -/
def withPoint (digits : String) (count : Nat) : String :=
  if count = 0 then digits
  else
    let padded := (zeros (count + 1 - digits.length) ++ digits).toList
    let whole := padded.length - count
    String.ofList (padded.take whole ++ '.' :: padded.drop whole)

def signed (negative : Bool) (text : String) : String := if negative then "-" ++ text else text

/-- A number with `count` digits behind the point. -/
def fixed (value : Float) (count : Nat) : String :=
  if 1e21 ≤ value.abs then text value
  else
    match kindOfBits value.toBits with
    | .finite negative parts =>
      let (numerator, denominator) := fraction parts
      let scaled := roundDiv (numerator * Nat.pow 10 count) denominator
      signed (negative && parts.mantissa ≠ 0) (withPoint (toString scaled) count)
    | _ => text value

/-- The first `count` digits of a positive number, and the exponent of the first one. -/
def significant (parts : Parts) (count : Nat) : String × Int :=
  let (numerator, denominator) := fraction parts
  let exponent := parts.shortest.point - 1
  let digitsAt (exponent : Int) : Nat :=
    let shift := (count : Int) - 1 - exponent
    if 0 ≤ shift then roundDiv (numerator * Nat.pow 10 shift.toNat) denominator
    else roundDiv numerator (denominator * Nat.pow 10 (-shift).toNat)
  let start := if digitsAt exponent < Nat.pow 10 (count - 1) then exponent - 1 else exponent
  if digitsAt start < Nat.pow 10 count then (toString (digitsAt start), start)
  else (toString (digitsAt (start + 1)), start + 1)

def exponentText (exponent : Int) : String :=
  (if exponent < 0 then "e-" else "e+") ++ toString exponent.natAbs

/-- A number with one digit in front of the point and `count` digits behind it; as many as needed
if there is no count. -/
def exponential (value : Float) (count : Option Nat) : String :=
  match kindOfBits value.toBits with
  | .finite negative parts =>
    if parts.mantissa = 0 then
      let count := count.getD 0
      withPoint (zeros (count + 1)) count ++ "e+0"
    else
      let (digits, exponent) := match count with
        | some count => significant parts (count + 1)
        | none => (String.ofList parts.shortest.digits, parts.shortest.point - 1)
      signed negative (withPoint digits (digits.length - 1) ++ exponentText exponent)
  | _ => text value

/-- A number with `count` digits. -/
def precise (value : Float) (count : Nat) : String :=
  match kindOfBits value.toBits with
  | .finite negative parts =>
    if parts.mantissa = 0 then withPoint (zeros count) (count - 1)
    else
      let (digits, exponent) := significant parts count
      let body :=
        if exponent < -6 || (count : Int) ≤ exponent then
          withPoint digits (count - 1) ++ exponentText exponent
        else if exponent < 0 then "0." ++ zeros (-1 - exponent).toNat ++ digits
        else withPoint digits (count - 1 - exponent.toNat)
      signed negative body
  | _ => text value

/-! ### Radix -/

def digitChar (digit : Nat) : Char := Char.ofNat (if digit < 10 then 48 + digit else 87 + digit)

/-- The digits of a natural number, the last one first; `fuel` bounds their count. -/
def digitsDown (radix : Nat) : Nat → Nat → List Nat
  | 0, _ => []
  | fuel + 1, value =>
    if value < radix then [value] else value % radix :: digitsDown radix fuel (value / radix)

def naturalText (radix value : Nat) : String :=
  String.ofList ((digitsDown radix (value.log2 + 1) value).reverse.map digitChar)

def integerText (radix : Nat) (value : Int) : String :=
  signed (value < 0) (naturalText radix value.natAbs)

/-- Adds one to the last digit of a list that begins with it. -/
def increment (radix : Nat) : List Nat → List Nat
  | [] => [1]
  | digit :: rest => if digit + 1 < radix then (digit + 1) :: rest else 0 :: increment radix rest

/-- The digits of a fraction, the last one first, and what is left of it; digits are taken while all
of them together stay small enough to be told apart. -/
def fractionDigits (radix : Nat) : Nat → Float → Nat → List Nat → List Nat × Float
  | 0, rest, _, digits => (digits, rest)
  | fuel + 1, rest, total, digits =>
    if rest == 0 || 4503599627370495 < total then (digits, rest)
    else
      let scaled := rest * Float.ofNat radix
      let digit := scaled.floor.toUInt64.toNat
      fractionDigits radix fuel (scaled - scaled.floor) (total * radix + digit) (digit :: digits)

/-- A fraction with the whole part in front of it, rounded to its last digit. -/
def roundedFraction (radix whole : Nat) (part : Float) : String :=
  let (digits, rest) := fractionDigits radix 1100 part whole []
  let up : Bool := Float.ofNat (radix / 2) ≤ rest * Float.ofNat radix
  let digits :=
    if up then digits.dropWhile (· = radix - 1) else digits.dropWhile (· = 0)
  match digits with
  | [] => naturalText radix (if up then whole + 1 else whole)
  | digits =>
    let digits := if up then increment radix digits else digits
    naturalText radix whole ++ "." ++ String.ofList (digits.reverse.map digitChar)

/-- The digits of a whole number that is too large for its last digits to be known; those are zeros.
The last digit comes first; `fuel` bounds their count. -/
def wideDigits (radix : Float) : Nat → Float → List Nat
  | 0, _ => []
  | fuel + 1, value =>
    if value < radix then [value.toUInt64.toNat]
    else
      let rest := (value / radix).floor
      let digit := if 9007199254740991 ≤ rest then 0 else (remainder value radix).toUInt64.toNat
      digit :: wideDigits radix fuel rest

/-- A number in another radix. -/
def radixText (value : Float) (radix : Nat) : String :=
  if radix = 10 || !isFinite value then text value
  else
    let magnitude := value.abs
    let whole := (toInt magnitude).toNat
    let body :=
      if magnitude ≤ 9007199254740991 then roundedFraction radix whole (magnitude - magnitude.floor)
      else
        String.ofList ((wideDigits (Float.ofNat radix) 1100 magnitude).reverse.map digitChar)
    signed (value < 0) body

end Fingerprint.Script.Number
