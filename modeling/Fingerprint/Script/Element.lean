import Fingerprint.Script.Number
import Fingerprint.Script.Value

/-!
Numbers of fixed sizes as they lie in memory: how each kind is read from bytes and written to them.
-/

namespace Fingerprint.Script

/-- The kinds of numbers that arrays of bytes can be seen as. -/
inductive Element where
  | uint8Clamped
  | int8
  | uint8
  | int16
  | uint16
  | int32
  | uint32
  | bigInt64
  | bigUint64
  | float16
  | float32
  | float64
deriving DecidableEq, Repr, Inhabited

namespace Element

def all : List Element :=
  [ .uint8Clamped, .int8, .uint8, .int16, .uint16, .int32, .uint32, .bigInt64, .bigUint64,
    .float16, .float32, .float64 ]

/-- The number of bytes of an element. -/
def size : Element → Nat
  | .uint8Clamped | .int8 | .uint8 => 1
  | .int16 | .uint16 | .float16 => 2
  | .int32 | .uint32 | .float32 => 4
  | .bigInt64 | .bigUint64 | .float64 => 8

def name : Element → String
  | .uint8Clamped => "Uint8Clamped"
  | .int8 => "Int8"
  | .uint8 => "Uint8"
  | .int16 => "Int16"
  | .uint16 => "Uint16"
  | .int32 => "Int32"
  | .uint32 => "Uint32"
  | .bigInt64 => "BigInt64"
  | .bigUint64 => "BigUint64"
  | .float16 => "Float16"
  | .float32 => "Float32"
  | .float64 => "Float64"

/-- Whether the elements are large integers. -/
def isBig : Element → Bool
  | .bigInt64 | .bigUint64 => true
  | _ => false

end Element

/-! ### Half precision -/

/-- A quotient by a power of two, rounded to the nearest number and to the even one of two. -/
def roundShift (value : Nat) (places : Nat) : Nat :=
  let unit := 1 <<< places
  let low := value / unit
  let rest := 2 * (value % unit)
  if rest < unit || (rest = unit && low % 2 = 0) then low else low + 1

/-- The bits of the nearest number of half precision. -/
def halfBits (value : Float) : Nat :=
  match Decimal.kindOfBits value.toBits with
  | .nan => 0x7E00
  | .infinite negative => (if negative then 0x8000 else 0) + 0x7C00
  | .finite negative parts =>
    let sign := if negative then 0x8000 else 0
    let lowest : Int := max (parts.mantissa.log2 + parts.exponent - 10) (-24)
    let shift := lowest - parts.exponent
    let units :=
      if 0 ≤ shift then roundShift parts.mantissa shift.toNat
      else parts.mantissa <<< (-shift).toNat
    -- a carry out of the fraction raises the exponent by itself
    let bits := if parts.mantissa = 0 then 0 else units + (lowest + 24).toNat * 1024
    sign + min bits 0x7C00

/-- The number of half precision with these bits. -/
def ofHalfBits (bits : Nat) : Float :=
  let exponent : Nat := bits / 1024 % 32
  let fraction : Nat := bits % 1024
  let magnitude :=
    if exponent = 31 then (if fraction = 0 then Number.infinity else Number.nan)
    else if exponent = 0 then Float.scaleB (Float.ofNat fraction) (-24)
    else Float.scaleB (Float.ofNat (1024 + fraction)) ((exponent : Int) - 25)
  if bits / 0x8000 % 2 = 1 then -magnitude else magnitude

/-! ### Bytes -/

/-- The number that bytes write, the least significant one first. -/
def ofBytes (bytes : List UInt8) : Nat := bytes.foldr (fun byte rest => byte.toNat + 256 * rest) 0

/-- A number as `count` bytes, the least significant one first. -/
def toBytes : Nat → Nat → List UInt8
  | 0, _ => []
  | count + 1, value => UInt8.ofNat (value % 256) :: toBytes count (value / 256)

/-- The number of two's complement with `width` bits that a natural number stands for. -/
def signedValue (width value : Nat) : Int :=
  if value < 1 <<< (width - 1) then value else (value : Int) - (1 <<< width : Nat)

namespace Element

/-- The value of an element whose bytes write a number. -/
def ofWord (element : Element) (word : Nat) : Value :=
  match element with
  | .uint8Clamped | .uint8 | .uint16 | .uint32 => .ofNat word
  | .int8 => .ofInt (signedValue 8 word)
  | .int16 => .ofInt (signedValue 16 word)
  | .int32 => .ofInt (signedValue 32 word)
  | .bigInt64 => .bigInt (signedValue 64 word)
  | .bigUint64 => .bigInt word
  | .float16 => .number (ofHalfBits word)
  | .float32 => .number (Float32.ofBits (UInt32.ofNat word)).toFloat
  | .float64 => .number (Float.ofBits (UInt64.ofNat word))

/-- A number between 0 and 255, a half rounded to the even neighbour. -/
def clamp (value : Float) : Nat :=
  if value.isNaN || value ≤ 0 then 0
  else if 255 ≤ value then 255
  else
    let low := value.floor
    let rest := value - low
    let whole := low.toUInt64.toNat
    if rest < 0.5 || (rest == 0.5 && whole % 2 = 0) then whole else whole + 1

/-- The number that the bytes of an element write for a value, which is a number or a large integer
as the element wants it. -/
def toWord (element : Element) (value : Value) : Nat :=
  match value with
  | .bigInt value => (value % 18446744073709551616).toNat
  | .number value =>
    match element with
    | .uint8Clamped => clamp value
    | .float16 => halfBits value
    | .float32 => value.toFloat32.toBits.toNat
    | .float64 => value.toBits.toNat
    | element => (Number.toUInt32 value).toNat % (1 <<< (8 * element.size))
  | _ => 0

/-- The bytes of an array from a place on, if it has that many. -/
def bytesAt (bytes : ByteArray) (place count : Nat) : List UInt8 :=
  (List.range count).map fun index => bytes[place + index]?.getD 0

/-- Puts bytes into an array. -/
def putBytes (bytes : ByteArray) (place : Nat) (values : List UInt8) : ByteArray :=
  (values.foldl (fun (bytes, place) value => (bytes.set! place value, place + 1)) (bytes, place)).1

/-- The element at a place of an array of bytes. -/
def read (element : Element) (bytes : ByteArray) (place : Nat) (littleEndian : Bool) : Value :=
  let found := bytesAt bytes place element.size
  element.ofWord (ofBytes (if littleEndian then found else found.reverse))

/-- Writes an element to a place of an array of bytes. -/
def write (element : Element) (bytes : ByteArray) (place : Nat) (littleEndian : Bool)
    (value : Value) : ByteArray :=
  let words := toBytes element.size (element.toWord value)
  putBytes bytes place (if littleEndian then words else words.reverse)

end Element

/-- A part of a buffer that is seen as an array of elements; without a length it reaches up to the
end of the buffer. -/
structure View where
  element : Element
  buffer : Ref
  offset : Nat
  length : Option Nat
deriving Inhabited

namespace View

/-- Whether the buffer, which has some number of bytes, is too short for the view. -/
def isOutside (view : View) (bytes : Nat) : Bool :=
  bytes < view.offset + view.length.getD 0 * view.element.size

/-- The number of elements if the buffer has some number of bytes. -/
def count (view : View) (bytes : Nat) : Nat :=
  if view.isOutside bytes then 0
  else view.length.getD ((bytes - view.offset) / view.element.size)

end View

end Fingerprint.Script
