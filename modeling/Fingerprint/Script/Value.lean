import Fingerprint.Script.Units

/-!
The values that scripts compute with.
-/

namespace Fingerprint.Script

/-- The place of an object in the heap. -/
abbrev Ref := Nat

inductive Value where
  | undefined
  | null
  | bool (value : Bool)
  | number (value : Float)
  | bigInt (value : Int)
  | text (value : Units)
  /-- A symbol by its number. -/
  | symbol (id : Nat)
  | object (ref : Ref)
deriving Inhabited

namespace Value

def isNullish : Value → Bool
  | .undefined | .null => true
  | _ => false

def isUndefined : Value → Bool
  | .undefined => true
  | _ => false

def ofText (text : String) : Value := .text (Units.ofString text)

def ofNat (value : Nat) : Value := .number (Float.ofNat value)

def ofInt (value : Int) : Value := .number (Float.ofInt value)

/-! ### Equality -/

/-- Whether two values are the same, as `===` sees it. -/
def same : Value → Value → Bool
  | .undefined, .undefined | .null, .null => true
  | .bool left, .bool right => left == right
  | .number left, .number right => left == right
  | .bigInt left, .bigInt right => left == right
  | .text left, .text right => left == right
  | .symbol left, .symbol right => left == right
  | .object left, .object right => left == right
  | _, _ => false

/-- Like `same`, but a number that is none is the same as itself. -/
def sameOrNaN (left right : Value) : Bool :=
  match left, right with
  | .number left, .number right => left == right || (left.isNaN && right.isNaN)
  | left, right => left.same right

/-- Like `sameOrNaN`, but the zeros differ. -/
def identical (left right : Value) : Bool :=
  match left, right with
  | .number left, .number right => left.toBits == right.toBits || (left.isNaN && right.isNaN)
  | left, right => left.same right

end Value

end Fingerprint.Script
