import Fingerprint.Data.Basic
import Fingerprint.Decimal.Double
import Fingerprint.Text.Utf8

/-!
Reading JSON.

Strings with escapes that leave half a surrogate pair and numbers beyond the doubles are written
correctly but denote nothing; they are read as `Data.unreadable`.
-/

namespace Fingerprint.Json

/-- The four characters that JSON passes over between tokens. -/
def isSpace (c : Char) : Bool := c = ' ' || c = '\t' || c = '\n' || c = '\r'

def skipSpace : List Char → List Char
  | [] => []
  | c :: rest => if isSpace c then skipSpace rest else c :: rest

/-- The number that four hexadecimal digits write. -/
def hexUnit? (a b c d : Char) : Option Nat := do
  return ((← Text.hexValue? a) * 16 + (← Text.hexValue? b)) * 256 + (← Text.hexValue? c) * 16 +
    (← Text.hexValue? d)

def isHighSurrogate (unit : Nat) : Bool := 0xD800 ≤ unit && unit < 0xDC00

def isLowSurrogate (unit : Nat) : Bool := 0xDC00 ≤ unit && unit < 0xE000

/-- A string being read: the characters last first, and whether an escape was half a pair. -/
structure StringProgress where
  chars : List Char
  broken : Bool

/-- The character of a short escape. -/
def shortEscape? : Char → Option Char
  | '"' => some '"'
  | '\\' => some '\\'
  | '/' => some '/'
  | 'b' => some '\x08'
  | 'f' => some '\x0c'
  | 'n' => some '\n'
  | 'r' => some '\r'
  | 't' => some '\t'
  | _ => none

/-- The rest of a string up to its closing quote; `none` inside if the string is unreadable. -/
def readString : Nat → StringProgress → List Char → Option (Option String × List Char)
  | 0, _, _ => none
  | fuel + 1, progress, chars =>
    let push (c : Char) : StringProgress := { progress with chars := c :: progress.chars }
    match chars with
    | [] => none
    | '"' :: rest =>
      some (if progress.broken then none else some (String.ofList progress.chars.reverse), rest)
    | '\\' :: 'u' :: a :: b :: c :: d :: rest =>
      match hexUnit? a b c d with
      | none => none
      | some unit =>
        if isHighSurrogate unit then
          match rest with
          | '\\' :: 'u' :: e :: f :: g :: h :: after =>
            match hexUnit? e f g h with
            | none => none
            | some low =>
              if isLowSurrogate low then
                let code := 0x10000 + (unit - 0xD800) * 0x400 + (low - 0xDC00)
                readString fuel (push (Char.ofNat code)) after
              else readString fuel { progress with broken := true } rest
          | _ => readString fuel { progress with broken := true } rest
        else if isLowSurrogate unit then readString fuel { progress with broken := true } rest
        else readString fuel (push (Char.ofNat unit)) rest
    | '\\' :: c :: rest =>
      match shortEscape? c with
      | some c => readString fuel (push c) rest
      | none => none
    | c :: rest => if c.toNat < 0x20 then none else readString fuel (push c) rest

def digitsValue (digits : List Char) : Nat :=
  digits.foldl (fun value c => value * 10 + (c.toNat - '0'.toNat)) 0

/-- The double nearest to `mantissa * 10 ^ exponent`, unless it is infinite. -/
def double? (negative : Bool) (mantissa : Nat) (exponent : Int) : Option UInt64 :=
  let value := Decimal.nearest mantissa exponent
  if value.isInf then none else some (if negative then -value else value).toBits

/-- An exponent after its letter; without one it is zero. -/
def readExponent : List Char → Option (Option Int × List Char)
  | c :: rest =>
    if c = 'e' || c = 'E' then
      let (negative, rest) := match rest with
        | '-' :: rest => (true, rest)
        | '+' :: rest => (false, rest)
        | _ => (false, rest)
      let digits := rest.takeWhile Char.isDigit
      if digits.isEmpty then none
      else
        let value : Int := digitsValue digits
        some (some (if negative then -value else value), rest.dropWhile Char.isDigit)
    else some (none, c :: rest)
  | [] => some (none, [])

/-- The digits behind a decimal point; without one there are none. -/
def readFraction : List Char → Option (List Char × List Char)
  | '.' :: rest =>
    let digits := rest.takeWhile Char.isDigit
    if digits.isEmpty then none else some (digits, rest.dropWhile Char.isDigit)
  | rest => some ([], rest)

/-- What the parts of a number denote. Integers that fit 64 bits stay integers; minus zero is a
double. -/
def numberData (negative : Bool) (whole fraction : List Char) (exponent : Option Int) : Data :=
  let value := digitsValue whole
  let asDouble : Data :=
    match double? negative (digitsValue (whole ++ fraction))
        (exponent.getD 0 - (fraction.length : Int)) with
    | some bits => .float bits
    | none => .unreadable
  if fraction.isEmpty && exponent.isNone then
    if !negative && value < 1 <<< 64 then .natural value
    else if negative && value ≠ 0 && value ≤ 1 <<< 63 then .integer (-value)
    else asDouble
  else asDouble

/-- A number behind its sign. -/
def readUnsigned (negative : Bool) (chars : List Char) : Option (Data × List Char) :=
  let whole := chars.takeWhile Char.isDigit
  let rest := chars.dropWhile Char.isDigit
  if whole.isEmpty || (whole.length > 1 && whole.head? = some '0') then none
  else do
    let (fraction, rest) ← readFraction rest
    let (exponent, rest) ← readExponent rest
    return (numberData negative whole fraction exponent, rest)

def readNumber : List Char → Option (Data × List Char)
  | '-' :: rest => readUnsigned true rest
  | chars => readUnsigned false chars

/-- The characters after a fixed word, if they begin with it. -/
def afterWord? (word : List Char) (chars : List Char) : Option (List Char) :=
  if word.isPrefixOf chars then some (chars.drop word.length) else none

def dataOfString : Option String → Data
  | some text => .text text
  | none => .unreadable

mutual

/-- A value and the characters after it. -/
def readValue : Nat → List Char → Option (Data × List Char)
  | 0, _ => none
  | fuel + 1, chars =>
    match skipSpace chars with
    | [] => none
    | '{' :: rest =>
      match skipSpace rest with
      | '}' :: rest => some (.record [], rest)
      | rest => readMembers fuel [] rest
    | '[' :: rest =>
      match skipSpace rest with
      | ']' :: rest => some (.list [], rest)
      | rest => readItems fuel [] rest
    | '"' :: rest => do
      let (text, rest) ← readString (rest.length + 1) ⟨[], false⟩ rest
      return (dataOfString text, rest)
    | 'n' :: rest => (afterWord? ['u', 'l', 'l'] rest).map (.null, ·)
    | 't' :: rest => (afterWord? ['r', 'u', 'e'] rest).map (.bool true, ·)
    | 'f' :: rest => (afterWord? ['a', 'l', 's', 'e'] rest).map (.bool false, ·)
    | rest => readNumber rest

/-- The items of a list up to its bracket; the items so far come last first. -/
def readItems : Nat → List Data → List Char → Option (Data × List Char)
  | 0, _, _ => none
  | fuel + 1, items, chars =>
    match readValue fuel chars with
    | none => none
    | some (item, rest) =>
      match skipSpace rest with
      | ',' :: rest => readItems fuel (item :: items) rest
      | ']' :: rest => some (.list (item :: items).reverse, rest)
      | _ => none

/-- The members of an object up to its brace; the members so far come last first. -/
def readMembers : Nat → List (Data × Data) → List Char → Option (Data × List Char)
  | 0, _, _ => none
  | fuel + 1, members, chars =>
    match skipSpace chars with
    | '"' :: rest =>
      match readString (rest.length + 1) ⟨[], false⟩ rest with
      | none => none
      | some (key, rest) =>
        match skipSpace rest with
        | ':' :: rest =>
          match readValue fuel rest with
          | none => none
          | some (value, rest) =>
            let members := (dataOfString key, value) :: members
            match skipSpace rest with
            | ',' :: rest => readMembers fuel members rest
            | '}' :: rest => some (.record members.reverse, rest)
            | _ => none
        | _ => none
    | _ => none

end

/-- The value of a JSON text, which holds nothing else but white space. -/
def parse? (text : String) : Option Data :=
  let chars := text.toList
  match readValue (chars.length + 1) chars with
  | some (data, rest) => if (skipSpace rest).isEmpty then some data else none
  | none => none

/-- The most lists and objects within each other that are read as a whole. -/
def depthLimit : Nat := 127

/-- The value of a JSON text all of whose parts can be read. -/
def parseWhole? (text : String) : Option Data :=
  (parse? text).filter (·.readable depthLimit)

end Fingerprint.Json
