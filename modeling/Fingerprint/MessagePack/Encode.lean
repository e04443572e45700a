import Fingerprint.Data.Basic
import Fingerprint.Text.Utf8

/-!
Writing MessagePack.

A value begins with a marker that tells its kind and, if it is short, its length; a longer length
follows in one, two or four bytes. The shortest form is written.
-/

namespace Fingerprint.MessagePack

/-- The lowest `count` bytes of a number, the highest of them first. -/
def bigEndian (value : Nat) : Nat → List UInt8
  | 0 => []
  | count + 1 => UInt8.ofNat (value >>> (8 * count)) :: bigEndian value count

def byte (value : Nat) : UInt8 := UInt8.ofNat value

def encodeNatural (value : Nat) : List UInt8 :=
  if value < 0x80 then [byte value]
  else if value < 0x100 then 0xCC :: bigEndian value 1
  else if value < 0x10000 then 0xCD :: bigEndian value 2
  else if value < 0x100000000 then 0xCE :: bigEndian value 4
  else 0xCF :: bigEndian value 8

/-- A number in two's complement of `count` bytes. -/
def twosComplement (value : Int) (count : Nat) : List UInt8 :=
  bigEndian (value % (1 <<< (8 * count) : Nat)).toNat count

/-- A number that may have a sign, with the fewest bytes that hold it. -/
def encodeInteger (value : Int) : List UInt8 :=
  if -0x20 ≤ value ∧ value < 0 then twosComplement value 1
  else if -0x80 ≤ value ∧ value < 0x80 then 0xD0 :: twosComplement value 1
  else if -0x8000 ≤ value ∧ value < 0x8000 then 0xD1 :: twosComplement value 2
  else if -0x80000000 ≤ value ∧ value < 0x80000000 then 0xD2 :: twosComplement value 4
  else 0xD3 :: twosComplement value 8

/-- The marker of a text of this many bytes. -/
def textHeader (length : Nat) : List UInt8 :=
  if length < 0x20 then [byte (0xA0 + length)]
  else if length < 0x100 then 0xD9 :: bigEndian length 1
  else if length < 0x10000 then 0xDA :: bigEndian length 2
  else 0xDB :: bigEndian length 4

def bytesHeader (length : Nat) : List UInt8 :=
  if length < 0x100 then 0xC4 :: bigEndian length 1
  else if length < 0x10000 then 0xC5 :: bigEndian length 2
  else 0xC6 :: bigEndian length 4

def listHeader (length : Nat) : List UInt8 :=
  if length < 0x10 then [byte (0x90 + length)]
  else if length < 0x10000 then 0xDC :: bigEndian length 2
  else 0xDD :: bigEndian length 4

def recordHeader (length : Nat) : List UInt8 :=
  if length < 0x10 then [byte (0x80 + length)]
  else if length < 0x10000 then 0xDE :: bigEndian length 2
  else 0xDF :: bigEndian length 4

def encodeText (text : String) : List UInt8 :=
  let bytes := Text.encode text
  textHeader bytes.length ++ bytes

mutual

/-- The bytes of a value. -/
def encode : Data → List UInt8
  | .null | .unreadable => [0xC0]
  | .bool false => [0xC2]
  | .bool true => [0xC3]
  | .natural value => encodeNatural value
  | .integer value => encodeInteger value
  | .float bits => 0xCB :: bigEndian bits.toNat 8
  | .text text => encodeText text
  | .bytes bytes => bytesHeader bytes.length ++ bytes
  | .list items => listHeader items.length ++ encodeItems items
  | .record entries => recordHeader entries.length ++ encodeEntries entries

def encodeItems : List Data → List UInt8
  | [] => []
  | item :: rest => encode item ++ encodeItems rest

def encodeEntries : List (Data × Data) → List UInt8
  | [] => []
  | (key, value) :: rest => encode key ++ encode value ++ encodeEntries rest

end

end Fingerprint.MessagePack
