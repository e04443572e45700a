import Fingerprint.Plugin.Catalog
import Fingerprint.Text.Words

/-!
Templates: texts with references to capture groups.

A reference is a backslash or a dollar sign with a number behind it. All other characters stand
for themselves.
-/

namespace Fingerprint.Template

/-- A part of a template. -/
inductive Part where
  | literal (c : Char)
  | reference (group : Nat)
deriving DecidableEq, Repr, Inhabited

def isMark (c : Char) : Bool := c = '\\' || c = '$'

def numberOf (digits : List Char) : Nat :=
  digits.foldl (fun value c => value * 10 + (c.toNat - '0'.toNat)) 0

/-- The parts of a template, from left to right; the bound is its length. -/
def partsOfList : Nat → List Char → List Part
  | 0, _ => []
  | _ + 1, [] => []
  | fuel + 1, c :: rest =>
    let digits := rest.takeWhile Char.isDigit
    if isMark c && !digits.isEmpty then
      .reference (numberOf digits) :: partsOfList fuel (rest.dropWhile Char.isDigit)
    else
      .literal c :: partsOfList fuel rest

def parts (template : String) : List Part :=
  partsOfList template.toList.length template.toList

/-- The text of a group without white space at its ends; groups without text are empty. -/
def groupText (captures : Regex.Captures) (group : Nat) : List Char :=
  match captures.get group with
  | some text => Text.trimList Text.isBlank text.toList
  | none => []

def Part.text (captures : Regex.Captures) : Part → List Char
  | .literal c => [c]
  | .reference group => groupText captures group

/-- Whether the part is replaced by a text that is not empty. -/
def Part.isFilled (captures : Regex.Captures) : Part → Bool
  | .literal _ => false
  | .reference group => !(groupText captures group).isEmpty

/-- The text of a template with its references replaced, without white space at the ends. There is
none if no reference was replaced by a text that is not empty. -/
def render (template : String) (captures : Regex.Captures) : Option String :=
  let parts := parts template
  let text := Text.trimList Text.isBlank (parts.flatMap (·.text captures))
  if parts.any (·.isFilled captures) && !text.isEmpty then some (String.ofList text) else none

/-- The text that a match yields by a capture rule. -/
def captureText (rule : Plugin.CaptureRule) (captures : Regex.Captures) : Option String :=
  match rule with
  | .group index => captures.get index
  | .template template => render template captures
  | .whole => none

end Fingerprint.Template
