import Fingerprint.Unicode.DirectionTable
import Fingerprint.Unicode.CodePoints

/-!
Characters by the direction in which they are written, and by how they join their neighbours.
-/

namespace Fingerprint.Unicode

/-- What decides in which direction a character is written. -/
inductive Direction where
  | leftToRight
  | rightToLeft
  | arabicNumber
  | europeanNumber
  | nonspacing
  | neutral
deriving DecidableEq, Repr, Inhabited

/-- How a letter of a cursive script joins its neighbours. -/
inductive Joining where
  | none
  | left
  | right
  | both
  | transparent
deriving DecidableEq, Repr, Inhabited

/-- The class whose code points include one, or else the default. -/
def classOf {α : Type} (classes : List (α × CodePoints.Index)) (default : α) (code : Nat) : α :=
  ((classes.find? (·.2.contains code)).map (·.1)).getD default

def indexOf (text : String) : CodePoints.Index := (CodePoints.ofText text).index

def directionIndexes : List (Direction × CodePoints.Index) :=
  [ (.rightToLeft, indexOf rightToLeftText), (.arabicNumber, indexOf arabicNumberText),
    (.europeanNumber, indexOf europeanNumberText), (.nonspacing, indexOf nonspacingText),
    (.neutral, indexOf neutralText) ]

def joiningIndexes : List (Joining × CodePoints.Index) :=
  [ (.left, indexOf leftJoiningText), (.right, indexOf rightJoiningText),
    (.both, indexOf dualJoiningText), (.transparent, indexOf transparentText) ]

def direction (code : Nat) : Direction := classOf directionIndexes .leftToRight code

def joining (code : Nat) : Joining := classOf joiningIndexes .none code

end Fingerprint.Unicode
