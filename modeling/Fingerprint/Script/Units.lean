/-!
Texts of scripts: sequences of 16-bit units, in which a character outside the basic plane is a pair
of surrogates and a surrogate may stand alone.
-/

namespace Fingerprint.Script

/-- A text of a script. -/
structure Units where
  data : Array UInt16
deriving DecidableEq, Hashable, Inhabited, Repr

namespace Units

def empty : Units := ⟨#[]⟩

/-- Adds the units of a character. -/
def pushChar (units : Array UInt16) (c : Char) : Array UInt16 :=
  let code := c.toNat
  if code < 0x10000 then units.push code.toUInt16
  else
    let offset := code - 0x10000
    (units.push (0xD800 + offset / 0x400).toUInt16).push (0xDC00 + offset % 0x400).toUInt16

def ofList (chars : List Char) : Units := ⟨chars.foldl pushChar #[]⟩

def ofString (text : String) : Units := ⟨text.toList.foldl pushChar #[]⟩

instance : Coe String Units := ⟨ofString⟩

def ofChar (c : Char) : Units := ⟨pushChar #[] c⟩

instance : Append Units := ⟨fun left right => ⟨left.data ++ right.data⟩⟩

def length (units : Units) : Nat := units.data.size

def isEmpty (units : Units) : Bool := units.data.isEmpty

def get? (units : Units) (index : Nat) : Option UInt16 := units.data[index]?

/-- The units from `first` to before `last`. -/
def slice (units : Units) (first last : Nat) : Units := ⟨units.data.extract first last⟩

def isHigh (unit : UInt16) : Bool := 0xD800 ≤ unit && unit ≤ 0xDBFF

def isLow (unit : UInt16) : Bool := 0xDC00 ≤ unit && unit ≤ 0xDFFF

/-- The code point of a pair of surrogates. -/
def joinPair (high low : UInt16) : Nat :=
  0x10000 + (high.toNat - 0xD800) * 0x400 + (low.toNat - 0xDC00)

/-- The code points, a lone surrogate as its own code. -/
def codesOfList : List UInt16 → List Nat
  | high :: low :: rest =>
    if isHigh high && isLow low then joinPair high low :: codesOfList rest
    else high.toNat :: codesOfList (low :: rest)
  | [unit] => [unit.toNat]
  | [] => []

def codes (units : Units) : List Nat := codesOfList units.data.toList

def isSurrogate (code : Nat) : Bool := 0xD800 ≤ code && code ≤ 0xDFFF

/-- The text, unless a surrogate stands alone in it. -/
def toString? (units : Units) : Option String :=
  let codes := units.codes
  if codes.any isSurrogate then none else some (String.ofList (codes.map Char.ofNat))

/-- The text with a replacement for each lone surrogate. -/
def toText (units : Units) : String :=
  String.ofList (units.codes.map fun code => if isSurrogate code then '\uFFFD' else Char.ofNat code)

/-- The number of bytes that a code point takes. -/
def byteCount (code : Nat) : Nat :=
  if code < 0x80 then 1 else if code < 0x800 then 2 else if code < 0x10000 then 3 else 4

/-- The code points at the front of a list that take at most `room` bytes together. -/
def fitting : Nat → List Nat → List Nat
  | _, [] => []
  | room, code :: rest =>
    if byteCount code ≤ room then code :: fitting (room - byteCount code) rest else []

/-- The units of a code point. -/
def ofCode (code : Nat) : Units :=
  if isSurrogate code then ⟨#[code.toUInt16]⟩ else ofChar (Char.ofNat code)

/-- The front of a text that takes at most `limit` bytes. -/
def cut (units : Units) (limit : Nat) : Units :=
  if 3 * units.length ≤ limit then units
  else (fitting limit units.codes).foldl (fun found code => found ++ ofCode code) empty

/-- A name as messages show it. -/
def shown (name : Units) : Units := name.cut 63

def concat (parts : List Units) : Units := parts.foldl (· ++ ·) empty

/-- The parts with a separator between them. -/
def join (separator : Units) : List Units → Units
  | [] => empty
  | first :: rest => rest.foldl (fun joined part => joined ++ separator ++ part) first

/-- The text `count` times. -/
def times (units : Units) (count : Nat) : Units :=
  ⟨Nat.rec #[] (fun _ data => data ++ units.data) count⟩

/-- Whether the other text stands at a place. -/
def matchesAt (units other : Units) (index : Nat) : Bool :=
  index + other.length ≤ units.length &&
    (List.range other.length).all fun offset => units.data[index + offset]? == other.data[offset]?

/-- The first place from `start` on at which the other text stands; `count` places are tried. -/
def find? (units other : Units) (start : Nat) : Nat → Option Nat
  | 0 => none
  | count + 1 =>
    if units.matchesAt other start then some start else units.find? other (start + 1) count

def indexOf? (units other : Units) (start : Nat) : Option Nat :=
  units.find? other start (units.length + 1 - start)

/-- The last place at or before `start` at which the other text stands. -/
def lastIndexOf? (units other : Units) : Nat → Option Nat
  | 0 => if units.matchesAt other 0 then some 0 else none
  | start + 1 =>
    if units.matchesAt other (start + 1) then some (start + 1) else units.lastIndexOf? other start

def listLess : List UInt16 → List UInt16 → Bool
  | [], [] => false
  | [], _ :: _ => true
  | _ :: _, [] => false
  | left :: lefts, right :: rights =>
    if left = right then listLess lefts rights else left < right

/-- The order by units. -/
def less (left right : Units) : Bool := listLess left.data.toList right.data.toList

/-- Whether a unit is white space or ends a line. -/
def isSpace (unit : UInt16) : Bool :=
  let code := unit.toNat
  (0x09 ≤ code && code ≤ 0x0D) || code == 0x20 || code == 0xA0 || code == 0x1680 ||
  (0x2000 ≤ code && code ≤ 0x200A) || code == 0x2028 || code == 0x2029 || code == 0x202F ||
  code == 0x205F || code == 0x3000 || code == 0xFEFF

def trimStart (units : Units) : Units := ⟨(units.data.toList.dropWhile isSpace).toArray⟩

def trimEnd (units : Units) : Units :=
  ⟨(units.data.toList.reverse.dropWhile isSpace).reverse.toArray⟩

end Units

end Fingerprint.Script
