import Fingerprint.Unicode.CaseMapping
import Fingerprint.Unicode.Direction
import Fingerprint.Unicode.Normalization
import Fingerprint.Url.HostTable
import Fingerprint.Url.Punycode

/-!
Names of domains: the form in which they are looked up, and which names are valid.

Small letters replace capital ones and plain characters their variants. Each label keeps the rules
for the characters in it; a label written in ASCII stands for the one that it describes.
-/

namespace Fingerprint.Url.DomainName

open Unicode (CodePoints Direction Joining NormalForm)

def forbiddenPoints : CodePoints.Index := (CodePoints.ofText forbiddenText).index

def ignoredPoints : CodePoints.Index := (CodePoints.ofText ignoredText).index

def markPoints : CodePoints.Index := (Unicode.categories ["Mn", "Mc", "Me"]).index

/-! ### The form that is looked up -/

/-- The sharp s and the final sigma, which differ from the letters they fold to, and the two joiners
of letters. -/
def keptCodes : List Nat := [0xDF, 0x3C2, 0x200C, 0x200D]

/-- What a character is looked up as. -/
def plainForm (code : Nat) : List Nat :=
  if code < 0x80 then Unicode.lower code
  else if ignoredPoints.contains code then []
  else if keptCodes.contains code then [code]
  else if code = 0x1E9E then [0xDF]
  else if code = 0x3002 then [0x2E]
  else
    let folded := NormalForm.nfkc.apply ((NormalForm.nfkc.apply [code]).flatMap Unicode.fold)
    if folded = [0x3002] then [0x2E] else folded

/-- What a name is looked up as. -/
def plainName (codes : List Nat) : List Nat :=
  NormalForm.nfc.apply (codes.flatMap plainForm)

/-! ### Labels -/

/-- Whether letters join across what follows, given the letters behind it: the first that is not
passed over joins on the given side. -/
def joinsOn (side : Joining) (codes : List Nat) : Bool :=
  match (codes.map Unicode.joining).find? (· ≠ .transparent) with
  | some joining => joining = side || joining = .both
  | none => false

/-- Whether the joiners in a label stand where they make a difference: behind a sign that takes away
a vowel, or between letters that would join. `before` is what precedes, last first. -/
def joinersFit (before : List Nat) : List Nat → Bool
  | [] => true
  | code :: rest =>
    let fits :=
      if code = 0x200C || code = 0x200D then
        before.head?.any (Unicode.combiningClass · = 9) ||
          (code = 0x200C && joinsOn .left before && joinsOn .right rest)
      else true
    fits && joinersFit (code :: before) rest

/-- Whether a label keeps the rules for its characters. -/
def isPlainLabel (codes : List Nat) : Bool :=
  codes.all (!forbiddenPoints.contains ·) && !codes.head?.any markPoints.contains &&
    joinersFit [] codes

/-- The code points of a label that is looked up, if it is valid. -/
def readLabel? (codes : List Nat) : Option (List Nat) :=
  match codes with
  | 0x78 :: 0x6E :: 0x2D :: 0x2D :: rest => do
    guard (rest.all (· < 0x80) && rest.getLast? ≠ some 0x2D)
    let written ← Punycode.decode? (rest.map Char.ofNat)
    guard (written.any (· ≥ 0x80) && plainName written = written && isPlainLabel written &&
      !written.contains 0x2E)
    return written
  | _ => if isPlainLabel codes then some codes else none

/-! ### Direction -/

/-- Whether a label is read without doubt where some label is written from right to left: it begins
with a letter, holds letters of no other direction, and ends with a letter or a digit. -/
def isDirected (codes : List Nat) : Bool :=
  let directions := codes.map Unicode.direction
  let last? := (directions.reverse.find? (· ≠ .nonspacing))
  match directions.head? with
  | none => true
  | some .leftToRight =>
    directions.all (fun direction =>
      direction ≠ .rightToLeft && direction ≠ .arabicNumber) &&
      last?.any (fun direction => direction = .leftToRight || direction = .europeanNumber)
  | some .rightToLeft =>
    directions.all (· ≠ .leftToRight) &&
      last?.any (· ≠ .neutral) &&
      !(directions.contains .europeanNumber && directions.contains .arabicNumber)
  | some _ => false

/-- Whether something in a label is written from right to left. -/
def hasRightToLeft (codes : List Nat) : Bool :=
  codes.any fun code =>
    code ≥ 0x590 &&
      (Unicode.direction code = .rightToLeft || Unicode.direction code = .arabicNumber)

/-- What a name is looked up as, if it is valid. -/
def read? (codes : List Nat) : Option (List Nat) := do
  guard (codes.all (!forbiddenPoints.contains ·))
  let plain := plainName codes
  let labels ← (plain.splitOn 0x2E).mapM readLabel?
  guard (!labels.any hasRightToLeft || labels.all isDirected)
  return plain

end Fingerprint.Url.DomainName
