import Fingerprint.Template
import Fingerprint.Transaction.Basic

/-!
Fragments: what matchers find in the value of a field, in the order of the matches.
-/

namespace Fingerprint

/-- One match of a matcher. -/
structure Fragment where
  /-- The place of the matcher among those of its field and category. -/
  matcher : Nat
  text : Option String
  name : Option String
deriving DecidableEq, Repr, Inhabited

namespace Plugin

/-- The matches of a matcher, as captured groups. A header matcher looks at every header whose name
matches; a matcher of the other kind finds nothing. -/
def Matcher.captures (matcher : Matcher) (value : FieldValue) : List Regex.Captures :=
  match matcher.target, value with
  | .text pattern, .text text => pattern.capturesAll text
  | .header name valuePattern, .headers headers =>
    headers.flatMap fun (headerName, headerValue) =>
      match name.captures? headerName with
      | none => []
      | some captures =>
        match valuePattern with
        | some pattern => pattern.capturesAll headerValue
        | none => [captures]
  | _, _ => []

/-- The fragments of a matcher. -/
def Matcher.apply (matcher : Matcher) (index : Nat) (value : FieldValue) : List Fragment :=
  (matcher.captures value).map fun captures =>
    ⟨index, Template.captureText matcher.capture captures, matcher.name⟩

/-- The fragments of matchers that are numbered from `start` on. -/
def applyFrom (start : Nat) (matchers : List Matcher) (value : FieldValue) : List Fragment :=
  match matchers with
  | [] => []
  | matcher :: rest => matcher.apply start value ++ applyFrom (start + 1) rest value

/-- The fragments of matchers in the order of their declaration. -/
def applyAll (matchers : List Matcher) (value : FieldValue) : List Fragment :=
  applyFrom 0 matchers value

end Plugin

end Fingerprint
