import Fingerprint.Decimal.Shortest
import Fingerprint.Script.Units

/-!
Numbers of scripts: their integers, their texts and the numbers that texts denote.
-/

namespace Fingerprint.Script.Number

open Decimal (Digits kindOfBits)

def nan : Float := 0.0 / 0.0

def infinity : Float := 1.0 / 0.0

def isFinite (value : Float) : Bool := value - value == 0

/-- The number without its fraction. -/
def truncate (value : Float) : Float := if value < 0 then value.ceil else value.floor

def isInteger (value : Float) : Bool := isFinite value && value == value.floor

/-- The integer part; 0 for what is not finite. -/
def toInt (value : Float) : Int :=
  match kindOfBits value.toBits with
  | .finite negative parts =>
    let magnitude : Nat :=
      if 0 ≤ parts.exponent then parts.mantissa <<< parts.exponent.toNat
      else parts.mantissa >>> (-parts.exponent).toNat
    if negative then -(magnitude : Int) else magnitude
  | _ => 0

/-- The integer part modulo `2 ^ 32`. -/
def toUInt32 (value : Float) : UInt32 :=
  if 0 ≤ value && value < 4294967296 then value.toUInt32
  else UInt32.ofNat (toInt value % 4294967296).toNat

/-- The number of a word with a sign. -/
def ofInt32 (word : UInt32) : Float :=
  if word < 0x80000000 then word.toFloat else word.toFloat - 4294967296

/-- The remainder of a division that is rounded toward zero. -/
def remainder (left right : Float) : Float :=
  if !isFinite left || right == 0 || right.isNaN then nan
  else if !isFinite right || left == 0 || truncate (left / right) == 0 then left
  else
    match kindOfBits left.toBits, kindOfBits right.toBits with
    | .finite negative dividend, .finite _ divisor =>
      let exponent := min dividend.exponent divisor.exponent
      let scaled (parts : Decimal.Parts) : Nat :=
        parts.mantissa <<< (parts.exponent - exponent).toNat
      let rest := Float.scaleB (Float.ofNat (scaled dividend % scaled divisor)) exponent
      if negative then -rest else rest
    | _, _ => nan

/-- The integer part; no number counts as 0. -/
def integral (value : Float) : Float := if value.isNaN then 0 else truncate value

/-- A place in a sequence of `length` items, which a negative number counts from the end. -/
def place (value : Float) (length : Nat) : Nat :=
  let value := integral value
  let size := Float.ofNat length
  if value < 0 then (if value + size < 0 then 0 else (value + size).toUInt64.toNat)
  else if size ≤ value then length
  else value.toUInt64.toNat

/-! ### Texts -/

/-- Integers up to 21 digits and fractions down to six zeros are written without an exponent. -/
def digitsText (number : Digits) : String :=
  if -6 < number.point && number.point ≤ 21 then number.positional
  else
    let exponent := number.point - 1
    let sign := if exponent < 0 then "e-" else "e+"
    let mantissa := match number.digits with
      | [first] => [first]
      | first :: rest => first :: '.' :: rest
      | [] => ['0']
    String.ofList mantissa ++ sign ++ toString exponent.natAbs

def text (value : Float) : String :=
  match kindOfBits value.toBits with
  | .nan => "NaN"
  | .infinite negative => if negative then "-Infinity" else "Infinity"
  | .finite negative parts =>
    if parts.mantissa = 0 then "0"
    else
      let body := digitsText parts.shortest
      if negative then "-" ++ body else body

/-! ### Reading -/

def radixDigit? (radix : Nat) (c : Char) : Option Nat :=
  let code := c.toNat
  let value? :=
    if '0' ≤ c && c ≤ '9' then some (code - 48)
    else if 'a' ≤ c && c ≤ 'z' then some (code - 87)
    else if 'A' ≤ c && c ≤ 'Z' then some (code - 55)
    else none
  value?.filter (· < radix)

/-- The digits at the front, as a number, with their count and what follows them. -/
def scanDigits (radix : Nat) : List Char → Nat → Nat → Nat × Nat × List Char
  | [], value, count => (value, count, [])
  | c :: rest, value, count =>
    match radixDigit? radix c with
    | some digit => scanDigits radix rest (value * radix + digit) (count + 1)
    | none => (value, count, c :: rest)

/-- The exponent at the front; without digits there is none. -/
def scanExponent (chars : List Char) : Int × List Char :=
  match chars with
  | 'e' :: rest | 'E' :: rest =>
    let (negative, rest) := match rest with
      | '-' :: rest => (true, rest)
      | '+' :: rest => (false, rest)
      | rest => (false, rest)
    let (value, count, rest) := scanDigits 10 rest 0 0
    if count = 0 then (0, chars) else (if negative then -(value : Int) else value, rest)
  | _ => (0, chars)

/-- The number without a sign at the front, and what follows it. -/
def scanMagnitude (chars : List Char) : Option (Float × List Char) :=
  match chars with
  | 'I' :: 'n' :: 'f' :: 'i' :: 'n' :: 'i' :: 't' :: 'y' :: rest => some (infinity, rest)
  | _ =>
    let (whole, wholeCount, rest) := scanDigits 10 chars 0 0
    let (value, fractionCount, rest) := match rest with
      | '.' :: behind =>
        let (value, count, behind) := scanDigits 10 behind whole 0
        if wholeCount + count = 0 then (whole, 0, rest) else (value, count, behind)
      | _ => (whole, 0, rest)
    if wholeCount + fractionCount = 0 then none
    else
      let (exponent, rest) := scanExponent rest
      some (Decimal.nearest value (exponent - fractionCount), rest)

/-- The number at the front, and what follows it. -/
def scan (chars : List Char) : Option (Float × List Char) :=
  match chars with
  | '-' :: rest => (scanMagnitude rest).map fun (value, rest) => (-value, rest)
  | '+' :: rest => scanMagnitude rest
  | _ => scanMagnitude chars

/-- The number of digits alone. -/
def ofDigits? (radix : Nat) (chars : List Char) : Option Nat :=
  match scanDigits radix chars 0 0 with
  | (value, count, []) => if count = 0 then none else some value
  | _ => none

/-- The radix that a text begins with, and the digits behind it. -/
def radixMark? : List Char → Option (Nat × List Char)
  | '0' :: 'x' :: rest | '0' :: 'X' :: rest => some (16, rest)
  | '0' :: 'o' :: rest | '0' :: 'O' :: rest => some (8, rest)
  | '0' :: 'b' :: rest | '0' :: 'B' :: rest => some (2, rest)
  | _ => none

def trimmed (units : Units) : List Char := units.trimStart.trimEnd.toText.toList

/-- The number that a text denotes as a whole; nothing is 0. -/
def ofUnits (units : Units) : Float :=
  match trimmed units with
  | [] => 0
  | chars =>
    match radixMark? chars with
    | some (radix, digits) =>
      match ofDigits? radix digits with
      | some value => Float.ofNat value
      | none => nan
    | none =>
      match scan chars with
      | some (value, []) => value
      | _ => nan

/-- The number at the front of a text. -/
def leading (units : Units) : Float :=
  match scan (trimmed units) with
  | some (value, _) => value
  | none => nan

/-- The integer at the front of a text; a radix of 0 is 10, or 16 behind its mark. -/
def leadingInteger (units : Units) (radix : Nat) : Float :=
  let chars := trimmed units
  let (negative, chars) := match chars with
    | '-' :: rest => (true, rest)
    | '+' :: rest => (false, rest)
    | _ => (false, chars)
  let (radix, chars) := match radix, chars with
    | 0, '0' :: 'x' :: rest | 0, '0' :: 'X' :: rest => (16, rest)
    | 16, '0' :: 'x' :: rest | 16, '0' :: 'X' :: rest => (16, rest)
    | 0, chars => (10, chars)
    | radix, chars => (radix, chars)
  let (value, count, _) := scanDigits radix chars 0 0
  if count = 0 || radix < 2 || 36 < radix then nan
  else if negative then -(Float.ofNat value) else Float.ofNat value

/-- The integer that a text denotes as a whole. -/
def integerOfUnits? (units : Units) : Option Int :=
  match trimmed units with
  | [] => some 0
  | chars =>
    match radixMark? chars, chars with
    | some (radix, digits), _ => (ofDigits? radix digits).map Int.ofNat
    | none, '-' :: digits => (ofDigits? 10 digits).map fun value => -(value : Int)
    | none, '+' :: digits => (ofDigits? 10 digits).map Int.ofNat
    | none, digits => (ofDigits? 10 digits).map Int.ofNat

end Fingerprint.Script.Number
