import Fingerprint.Html.ReferenceTable
import Fingerprint.Text.Utf8
import Fingerprint.Text.Words

/-!
Character references in text and in attribute values.

A numeric reference stands for the character with its number. A named reference is the longest name
of the table that follows the ampersand; in an attribute value a name without a semicolon in front
of an equals sign, a letter or a digit is no reference.
-/

namespace Fingerprint.Html

/-- The characters that numbers from 0x80 on stand for: 27 of these 32 numbers are read in another
encoding, where they are printable. -/
def renumbered : List Nat :=
  [ 0x20AC, 0x81, 0x201A, 0x192, 0x201E, 0x2026, 0x2020, 0x2021, 0x2C6, 0x2030, 0x160, 0x2039,
    0x152, 0x8D, 0x17D, 0x8F, 0x90, 0x2018, 0x2019, 0x201C, 0x201D, 0x2022, 0x2013, 0x2014, 0x2DC,
    0x2122, 0x161, 0x203A, 0x153, 0x9D, 0x17E, 0x178 ]

/-- The character of a numeric reference; numbers of no character stand for U+FFFD. -/
def characterOfNumber (number : Nat) : Char :=
  if number = 0 ∨ 0x10FFFF < number ∨ (0xD800 ≤ number ∧ number ≤ 0xDFFF) then '\uFFFD'
  else if 0x80 ≤ number ∧ number < 0xA0 then Char.ofNat (renumbered.getD (number - 0x80) number)
  else Char.ofNat number

/-- The value of the longest run of digits at the front, and the characters behind it. -/
def readDigits (base : Nat) : Option Nat → List Char → Option Nat × List Char
  | number, [] => (number, [])
  | number, c :: rest =>
    match (Text.hexValue? c).filter (· < base) with
    | some digit => readDigits base (some (number.getD 0 * base + digit)) rest
    | none => (number, c :: rest)

def skipSemicolon : List Char → List Char
  | ';' :: rest => rest
  | rest => rest

/-- A numeric reference whose `&#` was passed. -/
def readNumeric (chars : List Char) : Option (List Char × List Char) :=
  let (number, rest) := match chars with
    | 'x' :: digits | 'X' :: digits => readDigits 16 none digits
    | _ => readDigits 10 none chars
  number.map fun number => ([characterOfNumber number], skipSemicolon rest)

/-- A name of the table with the characters that it stands for. -/
def readEntry (word : List Char) : List Char × List Char :=
  match word.splitOn '=' with
  | [name, codes] =>
    (name, (codes.splitOn '+').map fun code => Char.ofNat ((readDigits 16 none code).1.getD 0))
  | _ => ([], [])

/-- The named references. -/
def namedReferences : List (List Char × List Char) :=
  referenceText.flatMap fun row => (Text.words row).map readEntry

/-- The longer of two entries, the first if there is no second. -/
def longerEntry (best : Option (List Char × List Char)) (entry : List Char × List Char) :
    Option (List Char × List Char) :=
  match best with
  | some (name, _) => if name.length < entry.1.length then some entry else best
  | none => some entry

/-- A named reference whose `&` was passed. -/
def readNamed (inAttribute : Bool) (chars : List Char) : Option (List Char × List Char) :=
  match (namedReferences.filter (·.1.isPrefixOf chars)).foldl longerEntry none with
  | none => none
  | some (name, value) =>
    let rest := chars.drop name.length
    let goesOn := match rest with
      | c :: _ => c = '=' || c.isAlphanum
      | [] => false
    if inAttribute && name.getLast? ≠ some ';' && goesOn then none else some (value, rest)

/-- The reference whose `&` was passed: its characters and those behind it. -/
def readReference (inAttribute : Bool) (chars : List Char) : Option (List Char × List Char) :=
  match chars with
  | '#' :: rest => readNumeric rest
  | c :: _ => if c.isAlphanum then readNamed inAttribute chars else none
  | [] => none

/-- The characters with all references replaced and U+FFFD for U+0000; the bound is their number. -/
def resolveReferences (inAttribute : Bool) : Nat → List Char → List Char
  | 0, _ => []
  | _ + 1, [] => []
  | fuel + 1, '&' :: rest =>
    match readReference inAttribute rest with
    | some (value, rest) => value ++ resolveReferences inAttribute fuel rest
    | none => '&' :: resolveReferences inAttribute fuel rest
  | fuel + 1, c :: rest =>
    (if c = '\x00' then '\uFFFD' else c) :: resolveReferences inAttribute fuel rest

end Fingerprint.Html
