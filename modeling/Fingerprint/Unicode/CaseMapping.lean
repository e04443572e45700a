import Fingerprint.Unicode.CaseMapTable
import Fingerprint.Unicode.Property

/-!
The capital and the small forms of texts, and the form in which texts are compared without regard
to case.

A form may be longer than the character. The small form of a sigma depends on whether it ends a
word.
-/

namespace Fingerprint.Unicode

/-- The form that a row gives a character. -/
def CaseRow.form? (row : CaseRow) (code : Nat) : Option Nat :=
  if row.first ≤ code && code < row.first + row.count * row.step &&
      (code - row.first) % row.step == 0 then
    some (row.target + (code - row.first))
  else none

/-- The form that rows and lists give a character; one that they do not mention is its own form. -/
def caseForm (rows : List CaseRow) (lists : List (Nat × List Nat)) (code : Nat) : List Nat :=
  match rows.findSome? (·.form? code) with
  | some form => [form]
  | none => (lists.lookup code).getD [code]

/-- The capital form of a character. -/
def upper (code : Nat) : List Nat :=
  if 0x61 ≤ code && code ≤ 0x7A then [code - 0x20]
  else if code < 0x80 then [code]
  else caseForm upperRows upperLists code

/-- The small form of a character. -/
def lower (code : Nat) : List Nat :=
  if 0x41 ≤ code && code ≤ 0x5A then [code + 0x20]
  else if code < 0x80 then [code]
  else caseForm lowerRows lowerLists code

/-- The form of a character in which case makes no difference: the small form of the capital form.
The letters of the Cherokee script go to their capital forms, and the dotless i stays. -/
def fold (code : Nat) : List Nat :=
  if code = 0x131 then [code]
  else if (0x13A0 ≤ code && code ≤ 0x13FD) || (0xAB70 ≤ code && code ≤ 0xABBF) then upper code
  else (upper code).flatMap lower

/-! ### Texts -/

def casedPoints : CodePoints.Index := ((propertyNamed? "cased").getD .empty).index

def caseIgnorablePoints : CodePoints.Index := ((propertyNamed? "caseignorable").getD .empty).index

/-- Whether the first character that is not passed over has case. -/
def beginsCased (codes : List Nat) : Bool :=
  (codes.dropWhile caseIgnorablePoints.contains).head?.any casedPoints.contains

/-- The small form of a text behind a cased character, if `afterCased`. -/
def lowerFrom (afterCased : Bool) : List Nat → List Nat
  | [] => []
  | code :: rest =>
    let form :=
      if code = 0x3A3 && afterCased && !beginsCased rest then [0x3C2] else lower code
    let afterCased :=
      if caseIgnorablePoints.contains code then afterCased else casedPoints.contains code
    form ++ lowerFrom afterCased rest

def lowerText (codes : List Nat) : List Nat := lowerFrom false codes

def upperText (codes : List Nat) : List Nat := codes.flatMap upper

end Fingerprint.Unicode
