import Fingerprint.MessagePack.Encode

/-!
Reading MessagePack.

A reader takes a value from the front of the bytes and returns it with the bytes behind it. It fails
if the bytes end before the value does.
-/

namespace Fingerprint.MessagePack

/-- Takes a value from the front of the bytes. -/
abbrev Reader (α : Type) := List UInt8 → Option (α × List UInt8)

/-- Takes a number of `count` bytes, the highest of them first, behind the digits `value`. -/
def readNumber (value : Nat) : Nat → Reader Nat
  | 0, bytes => some (value, bytes)
  | _ + 1, [] => none
  | count + 1, byte :: rest => readNumber (value * 256 + byte.toNat) count rest

/-- Takes this many bytes. -/
def readBytes : Nat → Reader (List UInt8)
  | 0, bytes => some ([], bytes)
  | _ + 1, [] => none
  | count + 1, byte :: rest => do
    let (bytes, rest) ← readBytes count rest
    return (byte :: bytes, rest)

/-- A number of `count` bytes in two's complement by its unsigned value. -/
def signed (count value : Nat) : Data :=
  let size : Nat := 1 <<< (8 * count)
  .integer (if value < size / 2 then value else (value : Int) - size)

/-- A text; bytes that are no text are left as they are. -/
def textOfBytes (bytes : List UInt8) : Data :=
  match Text.decode? bytes with
  | some text => .text text
  | none => .bytes bytes

/-- A double with the value of a single-precision number. -/
def widenSingle (bits : Nat) : Data := .float (Float32.ofBits (UInt32.ofNat bits)).toFloat.toBits

def readText (count : Nat) : Reader Data := fun bytes => do
  let (bytes, rest) ← readBytes count bytes
  return (textOfBytes bytes, rest)

def readBinary (count : Nat) : Reader Data := fun bytes => do
  let (bytes, rest) ← readBytes count bytes
  return (.bytes bytes, rest)

/-- Passes over the type and the bytes of an extension. -/
def readExtension (count : Nat) : Reader Data := fun bytes => do
  let (_, rest) ← readBytes (count + 1) bytes
  return (.unreadable, rest)

/-- Takes a length of `count` bytes, then what has this length. -/
def withLength {α : Type} (count : Nat) (read : Nat → Reader α) : Reader α := fun bytes => do
  let (length, rest) ← readNumber 0 count bytes
  read length rest

def readItems (read : Reader Data) : Nat → Reader (List Data)
  | 0, bytes => some ([], bytes)
  | count + 1, bytes => do
    let (item, rest) ← read bytes
    let (items, rest) ← readItems read count rest
    return (item :: items, rest)

def readEntries (read : Reader Data) : Nat → Reader (List (Data × Data))
  | 0, bytes => some ([], bytes)
  | count + 1, bytes => do
    let (key, rest) ← read bytes
    let (value, rest) ← read rest
    let (entries, rest) ← readEntries read count rest
    return ((key, value) :: entries, rest)

def readList (read : Reader Data) (count : Nat) : Reader Data := fun bytes => do
  let (items, rest) ← readItems read count bytes
  return (.list items, rest)

def readRecord (read : Reader Data) (count : Nat) : Reader Data := fun bytes => do
  let (entries, rest) ← readEntries read count bytes
  return (.record entries, rest)

/-- Takes a value that is not composed of others, by its marker. -/
def readScalar (marker : Nat) : Reader Data := fun bytes =>
  if marker < 0x80 then some (.natural marker, bytes)
  else if 0xA0 ≤ marker ∧ marker < 0xC0 then readText (marker - 0xA0) bytes
  else if 0xE0 ≤ marker then some (signed 1 marker, bytes)
  else
    let number (count : Nat) (make : Nat → Data) : Option (Data × List UInt8) :=
      (readNumber 0 count bytes).map fun (value, rest) => (make value, rest)
    match marker with
    | 0xC0 => some (.null, bytes)
    | 0xC2 => some (.bool false, bytes)
    | 0xC3 => some (.bool true, bytes)
    | 0xC4 => withLength 1 readBinary bytes
    | 0xC5 => withLength 2 readBinary bytes
    | 0xC6 => withLength 4 readBinary bytes
    | 0xC7 => withLength 1 readExtension bytes
    | 0xC8 => withLength 2 readExtension bytes
    | 0xC9 => withLength 4 readExtension bytes
    | 0xCA => number 4 widenSingle
    | 0xCB => number 8 fun bits => .float (UInt64.ofNat bits)
    | 0xCC => number 1 .natural
    | 0xCD => number 2 .natural
    | 0xCE => number 4 .natural
    | 0xCF => number 8 .natural
    | 0xD0 => number 1 (signed 1)
    | 0xD1 => number 2 (signed 2)
    | 0xD2 => number 4 (signed 4)
    | 0xD3 => number 8 (signed 8)
    | 0xD4 => readExtension 1 bytes
    | 0xD5 => readExtension 2 bytes
    | 0xD6 => readExtension 4 bytes
    | 0xD7 => readExtension 8 bytes
    | 0xD8 => readExtension 16 bytes
    | 0xD9 => withLength 1 readText bytes
    | 0xDA => withLength 2 readText bytes
    | 0xDB => withLength 4 readText bytes
    | _ => none

/-- The reader of a list or record by its marker, given the reader of its parts. -/
def composed? (read : Reader Data) (marker : Nat) : Option (Reader Data) :=
  if 0x80 ≤ marker ∧ marker < 0x90 then some (readRecord read (marker - 0x80))
  else if 0x90 ≤ marker ∧ marker < 0xA0 then some (readList read (marker - 0x90))
  else
    match marker with
    | 0xDC => some (withLength 2 (readList read))
    | 0xDD => some (withLength 4 (readList read))
    | 0xDE => some (withLength 2 (readRecord read))
    | 0xDF => some (withLength 4 (readRecord read))
    | _ => none

/-- Takes a value in which fewer than `depth` lists and records lie within each other. -/
def read : Nat → Reader Data
  | _, [] => none
  | 0, _ => none
  | depth + 1, marker :: bytes =>
    match composed? (read depth) marker.toNat with
    | some reader => if depth = 0 then none else reader bytes
    | none => readScalar marker.toNat bytes

/-- The bound on lists and records within each other. -/
def depthLimit : Nat := 1024

/-- The value at the front of the bytes; what follows it is passed over. -/
def decode? (bytes : List UInt8) : Option Data := (read depthLimit bytes).map (·.1)

end Fingerprint.MessagePack
