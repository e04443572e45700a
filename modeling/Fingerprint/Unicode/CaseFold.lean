import Fingerprint.Unicode.CodePoints
import Fingerprint.Unicode.CaseTable

/-!
Matching without regard to case: the characters that stand for the same letter.
-/

namespace Fingerprint.Unicode

/-- The members of the row's class that holds `code`, if the row has one. -/
def casePairOf (code : Nat) (row : Nat × Nat × Nat × Nat) : Option (List Nat) :=
  let (lower, upper, count, step) := row
  let within (start : Nat) : Bool :=
    start ≤ code && code < start + count * step && (code - start) % step == 0
  if within lower then some [code, upper + (code - lower)]
  else if within upper then some [lower + (code - upper), code]
  else none

/-- The characters equal to `code` up to case, `code` among them. ASCII letters are decided without
the table; of these only `k` and `s` have a member outside ASCII. -/
def caseClass (code : Nat) : List Nat :=
  if code < 0x80 then
    if code = 0x4B ∨ code = 0x6B then [0x4B, 0x6B, 0x212A]
    else if code = 0x53 ∨ code = 0x73 then [0x53, 0x73, 0x17F]
    else if 0x41 ≤ code ∧ code ≤ 0x5A then [code, code + 0x20]
    else if 0x61 ≤ code ∧ code ≤ 0x7A then [code - 0x20, code]
    else [code]
  else
    match caseClassRows.find? (·.contains code) with
    | some members => members
    | none => (casePairRows.findSome? (casePairOf code)).getD [code]

/-- Every class of more than one member. -/
def caseClasses : List (List Nat) :=
  caseClassRows ++ casePairRows.flatMap fun (lower, upper, count, step) =>
    (List.range count).map fun i => [lower + i * step, upper + i * step]

/-- The set closed under equality up to case. -/
def CodePoints.closeCase (set : CodePoints) : CodePoints :=
  if set.allBelow 0x80 then
    CodePoints.ofRanges (set.ranges ++ (List.range 0x80).flatMap fun code =>
      if set.contains code then (caseClass code).map Range.single else [])
  else
    let index := set.index
    CodePoints.ofRanges (set.ranges ++ caseClasses.flatMap fun members =>
      if members.any index.contains then members.map Range.single else [])

/-- The set closed under swapping the case of ASCII letters. -/
def CodePoints.closeCaseAscii (set : CodePoints) : CodePoints :=
  CodePoints.ofRanges (set.ranges ++ (List.range 26).flatMap fun i =>
    if set.contains (0x41 + i) || set.contains (0x61 + i) then
      [Range.single (0x41 + i), Range.single (0x61 + i)]
    else [])

end Fingerprint.Unicode
