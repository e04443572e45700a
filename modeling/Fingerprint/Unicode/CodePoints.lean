import Fingerprint.Text.Utf8
import Fingerprint.Text.Words

/-!
Sets of code points as lists of closed ranges.

A set in normal form lists its ranges in ascending order with at least one code point between two
of them. The set operations return normal forms.
-/

namespace Fingerprint.Unicode

/-- The code points from `first` to `last`, both included. -/
structure Range where
  first : Nat
  last : Nat
deriving DecidableEq, Repr, Inhabited

namespace Range

def contains (range : Range) (code : Nat) : Bool :=
  range.first ≤ code && code ≤ range.last

def single (code : Nat) : Range := ⟨code, code⟩

end Range

/-- A set of code points. -/
structure CodePoints where
  ranges : List Range
deriving DecidableEq, Repr, Inhabited

/-- The largest code point. -/
def maxCode : Nat := 0x10FFFF

namespace CodePoints

def empty : CodePoints := ⟨[]⟩

def all : CodePoints := ⟨[⟨0, maxCode⟩]⟩

def contains (set : CodePoints) (code : Nat) : Bool :=
  set.ranges.any (·.contains code)

/-- Joins ranges in ascending order of `first` that overlap or touch. -/
def join : Range → List Range → List Range
  | current, [] => [current]
  | current, next :: rest =>
    if next.first ≤ current.last + 1 then
      join ⟨current.first, max current.last next.last⟩ rest
    else
      current :: join next rest

/-- The normal form of ranges in any order. -/
def ofRanges (ranges : List Range) : CodePoints :=
  match ranges.mergeSort (fun left right => left.first ≤ right.first) with
  | [] => empty
  | first :: rest => ⟨join first rest⟩

def single (code : Nat) : CodePoints := ⟨[Range.single code]⟩

def range (first last : Nat) : CodePoints := ⟨[⟨first, last⟩]⟩

def union (left right : CodePoints) : CodePoints :=
  match left.ranges, right.ranges with
  | [], _ => right
  | _, [] => left
  | _, _ => ofRanges (left.ranges ++ right.ranges)

/-- The gaps of a normal form from `start` up to `limit`. -/
def gaps (limit start : Nat) : List Range → List Range
  | [] => if start ≤ limit then [⟨start, limit⟩] else []
  | next :: rest =>
    if start < next.first then
      ⟨start, next.first - 1⟩ :: gaps limit (next.last + 1) rest
    else
      gaps limit (next.last + 1) rest

/-- The code points up to `limit` that are not in the set. -/
def complementWithin (limit : Nat) (set : CodePoints) : CodePoints :=
  ⟨gaps limit 0 set.ranges⟩

def complement (set : CodePoints) : CodePoints := set.complementWithin maxCode

def inter (left right : CodePoints) : CodePoints :=
  (left.complement.union right.complement).complement

def diff (left right : CodePoints) : CodePoints :=
  (left.complement.union right).complement

def symmDiff (left right : CodePoints) : CodePoints :=
  (left.union right).diff (left.inter right)

def isEmpty (set : CodePoints) : Bool := set.ranges.isEmpty

/-- Whether all members are below `bound`. -/
def allBelow (bound : Nat) (set : CodePoints) : Bool :=
  set.ranges.all (·.last < bound)

/-- Code point sets laid out for a search that halves the candidates at each step. -/
structure Index where
  ranges : Array Range
deriving Repr, Inhabited

def index (set : CodePoints) : Index := ⟨set.ranges.toArray⟩

namespace Index

/-- Searches the ranges from `low` to below `high`. -/
def search (index : Index) (code : Nat) : Nat → Nat → Nat → Bool
  | 0, _, _ => false
  | fuel + 1, low, high =>
    if low < high then
      let middle := (low + high) / 2
      let range := index.ranges.getD middle ⟨1, 0⟩
      if code < range.first then index.search code fuel low middle
      else if range.last < code then index.search code fuel (middle + 1) high
      else true
    else
      false

def contains (index : Index) (code : Nat) : Bool :=
  index.search code (index.ranges.size + 1) 0 index.ranges.size

end Index

/-- The value of hexadecimal digits. -/
def hexNumber (digits : List Char) : Nat :=
  digits.foldl (fun value c => value * 16 + (Text.hexValue? c).getD 0) 0

/-- A range written as `41-5a`, or as `aa` for one code point. -/
def readRange (word : List Char) : Range :=
  let first := word.takeWhile (· ≠ '-')
  match word.drop first.length with
  | _ :: last => ⟨hexNumber first, hexNumber last⟩
  | [] => Range.single (hexNumber first)

/-- The set that a text of ranges denotes. -/
def ofText (text : String) : CodePoints := ofRanges ((Text.words text).map readRange)

end CodePoints

end Fingerprint.Unicode
