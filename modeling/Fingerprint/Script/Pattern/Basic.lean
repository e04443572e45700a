import Fingerprint.Script.Units
import Fingerprint.Unicode.CaseFold
import Fingerprint.Unicode.CaseMapping

/-!
The patterns of scripts, which are searched for by trying alternatives one after the other.
-/

namespace Fingerprint.Script

/-- What a pattern says about a single unit or code point. -/
inductive ClassItem where
  | range (first last : Nat)
  | digit (negated : Bool)
  | word (negated : Bool)
  | space (negated : Bool)
  /-- The code points with a property. -/
  | property (points : Unicode.CodePoints.Index) (negated : Bool)
deriving Inhabited

/-- A part of a pattern. -/
inductive PatternNode where
  | empty
  | code (code : Nat)
  | any
  /-- The codes in a set; `closed` tells whether it takes those that differ from its own by case, if
  case is ignored. -/
  | set (negated closed : Bool) (items : List ClassItem)
  | sequence (parts : List PatternNode)
  | choice (options : List PatternNode)
  | group (index : Nat) (body : PatternNode)
  | reference (index : Nat)
  | namedReference (name : String)
  | lineStart
  | lineEnd
  | boundary (negated : Bool)
  | look (ahead negated : Bool) (body : PatternNode)
  /-- A part several times; the groups from `first` to before `last` are cleared each time. -/
  | times (body : PatternNode) (least : Nat) (most : Option Nat) (greedy : Bool) (first last : Nat)
deriving Inhabited

/-- What the flags of a pattern turn on. -/
structure PatternFlags where
  all : Bool
  ignoreCase : Bool
  multiline : Bool
  dotAll : Bool
  unicode : Bool
  sticky : Bool
  indices : Bool
deriving Repr, Inhabited

/-- A pattern that has been read. -/
structure Pattern where
  source : Units
  flagText : Units
  flags : PatternFlags
  root : PatternNode
  /-- The number of groups, the whole match included. -/
  groupCount : Nat
  /-- The groups with names. -/
  names : List (String × Nat)
deriving Inhabited

namespace PatternFlags

def letters : List Char := ['d', 'g', 'i', 'm', 's', 'u', 'v', 'y']

/-- Reads flags; each stands at most once, and only one of those for code points. -/
def ofUnits? (units : Units) : Option PatternFlags := do
  let chars := (← units.toString?).toList
  let on (c : Char) : Bool := chars.contains c
  if chars.all letters.contains && chars.eraseDups.length = chars.length && !(on 'u' && on 'v') then
    return ⟨on 'g', on 'i', on 'm', on 's', on 'u' || on 'v', on 'y', on 'd'⟩
  else none

end PatternFlags

/-! ### Case -/

/-- The code that stands for all that differ from it by case. Without the flag for code points this
is the capital letter, unless an ASCII letter would stand for another one. -/
def caseless (unicode : Bool) (code : Nat) : Nat :=
  let form := if unicode then Unicode.fold code else Unicode.upper code
  match form with
  | [single] =>
    if unicode || code < 0x80 || (0x80 ≤ single && (single < 0x10000 || 0x10000 ≤ code)) then single
    else code
  | _ => code

/-- The codes that the same code stands for. -/
def caselessClass (unicode : Bool) (code : Nat) : List Nat :=
  let form := caseless unicode code
  (Unicode.caseClass code).filter (caseless unicode · = form)

namespace ClassItem

def isDigit (code : Nat) : Bool := 0x30 ≤ code && code ≤ 0x39

def isWord (code : Nat) : Bool :=
  isDigit code || (0x41 ≤ code && code ≤ 0x5A) || (0x61 ≤ code && code ≤ 0x7A) || code == 0x5F

def isSpace (code : Nat) : Bool := code < 0x10000 && Units.isSpace code.toUInt16

def contains (item : ClassItem) (code : Nat) : Bool :=
  match item with
  | .range first last => first ≤ code && code ≤ last
  | .digit negated => isDigit code != negated
  | .word negated => isWord code != negated
  | .space negated => isSpace code != negated
  | .property points negated => points.contains code != negated

end ClassItem

end Fingerprint.Script
