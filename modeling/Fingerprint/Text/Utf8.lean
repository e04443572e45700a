/-!
Texts as bytes.

A text is written as the UTF-8 bytes of its characters. Bytes that are no such text can still be
read with each maximal invalid part replaced by U+FFFD.
-/

namespace Fingerprint.Text

/-- The bytes of a character. -/
def encodeChar (c : Char) : List UInt8 :=
  let code := c.toNat
  if code < 0x80 then [UInt8.ofNat code]
  else if code < 0x800 then [UInt8.ofNat (0xC0 + code / 0x40), UInt8.ofNat (0x80 + code % 0x40)]
  else if code < 0x10000 then
    [UInt8.ofNat (0xE0 + code / 0x1000), UInt8.ofNat (0x80 + code / 0x40 % 0x40),
      UInt8.ofNat (0x80 + code % 0x40)]
  else
    [UInt8.ofNat (0xF0 + code / 0x40000), UInt8.ofNat (0x80 + code / 0x1000 % 0x40),
      UInt8.ofNat (0x80 + code / 0x40 % 0x40), UInt8.ofNat (0x80 + code % 0x40)]

/-- The bytes of a text. -/
def encode (text : String) : List UInt8 := text.toList.flatMap encodeChar

/-- The number of bytes of a text. -/
def byteCount (text : String) : Nat := text.utf8ByteSize

/-- What stands at the beginning of bytes: a character, or an invalid part; with its length. -/
inductive Piece where
  | char (c : Char) (length : Nat)
  | invalid (length : Nat)
deriving Repr

/-- The values that the second byte may have after a leading byte of several, and the number of
bytes. -/
def leading? (byte : Nat) : Option (Nat × Nat × Nat) :=
  if 0xC2 ≤ byte ∧ byte ≤ 0xDF then some (0x80, 0xBF, 2)
  else if byte = 0xE0 then some (0xA0, 0xBF, 3)
  else if byte = 0xED then some (0x80, 0x9F, 3)
  else if 0xE1 ≤ byte ∧ byte ≤ 0xEF then some (0x80, 0xBF, 3)
  else if byte = 0xF0 then some (0x90, 0xBF, 4)
  else if 0xF1 ≤ byte ∧ byte ≤ 0xF3 then some (0x80, 0xBF, 4)
  else if byte = 0xF4 then some (0x80, 0x8F, 4)
  else none

def isContinuation (byte : UInt8) : Bool := 0x80 ≤ byte.toNat && byte.toNat ≤ 0xBF

/-- The piece that begins with `first`. -/
def piece (first : UInt8) (rest : List UInt8) : Piece :=
  let lead := first.toNat
  if lead < 0x80 then .char (Char.ofNat lead) 1
  else match leading? lead with
    | none => .invalid 1
    | some (low, high, count) =>
      match rest with
      | second :: rest =>
        if second.toNat < low ∨ high < second.toNat then .invalid 1
        else
          let tail := second.toNat % 0x40
          if count = 2 then .char (Char.ofNat (lead % 0x20 * 0x40 + tail)) 2
          else match rest with
            | third :: rest =>
              if !isContinuation third then .invalid 2
              else
                let tail := tail * 0x40 + third.toNat % 0x40
                if count = 3 then .char (Char.ofNat (lead % 0x10 * 0x1000 + tail)) 3
                else match rest with
                  | fourth :: _ =>
                    if !isContinuation fourth then .invalid 3
                    else
                      let tail := tail * 0x40 + fourth.toNat % 0x40
                      .char (Char.ofNat (lead % 8 * 0x40000 + tail)) 4
                  | [] => .invalid 3
            | [] => .invalid 2
      | [] => .invalid 1

/-- The characters of bytes, with U+FFFD for each maximal invalid part. The bound is the number of
bytes. -/
def decodeLossyList : Nat → List UInt8 → List Char
  | 0, _ => []
  | _ + 1, [] => []
  | fuel + 1, first :: rest =>
    match piece first rest with
    | .char c length => c :: decodeLossyList fuel (rest.drop (length - 1))
    | .invalid length => '\uFFFD' :: decodeLossyList fuel (rest.drop (length - 1))

def decodeLossy (bytes : List UInt8) : String :=
  String.ofList (decodeLossyList bytes.length bytes)

/-- The characters of bytes if no part is invalid. -/
def decodeList? : Nat → List UInt8 → Option (List Char)
  | 0, [] => some []
  | 0, _ :: _ => none
  | _ + 1, [] => some []
  | fuel + 1, first :: rest =>
    match piece first rest with
    | .char c length => (decodeList? fuel (rest.drop (length - 1))).map (c :: ·)
    | .invalid _ => none

/-- The text that bytes spell out, if they do. -/
def decode? (bytes : List UInt8) : Option String :=
  (decodeList? bytes.length bytes).map String.ofList

/-- The value of a hexadecimal digit. -/
def hexValue? (c : Char) : Option Nat :=
  if '0' ≤ c ∧ c ≤ '9' then some (c.toNat - '0'.toNat)
  else if 'a' ≤ c ∧ c ≤ 'f' then some (c.toNat - 'a'.toNat + 10)
  else if 'A' ≤ c ∧ c ≤ 'F' then some (c.toNat - 'A'.toNat + 10)
  else none

/-- The bytes that pairs of hexadecimal digits write. -/
def ofHexList? : List Char → Option (List UInt8)
  | [] => some []
  | high :: low :: rest => do
    return UInt8.ofNat ((← hexValue? high) * 16 + (← hexValue? low)) :: (← ofHexList? rest)
  | _ => none

def ofHex? (text : String) : Option (List UInt8) := ofHexList? text.toList

/-- Bytes written with two hexadecimal digits each. -/
def toHex (bytes : List UInt8) : String :=
  String.ofList (bytes.flatMap fun byte =>
    [Nat.digitChar (byte.toNat / 16), Nat.digitChar (byte.toNat % 16)])

end Fingerprint.Text
