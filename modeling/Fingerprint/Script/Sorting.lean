import Fingerprint.Script.Machine

/-!
Sorting with a comparison that may be anything, also one that contradicts itself.

Long spans are divided at the median of three of their items into what is smaller, the same and
larger; short ones are sorted by insertion. Which items are compared in which order can be seen by
the comparison, and is fixed.
-/

namespace Fingerprint.Script

/-- A comparison: negative if the first item is smaller, positive if it is larger. -/
abbrev Comparison (α : Type) := α → α → M Int

/-- A part of an array, and how often it was divided. -/
structure Span where
  base : Nat
  count : Nat
  depth : Nat

section

variable {α : Type} [Inhabited α] (compare : Comparison α)

/-- Compares the items at two places. -/
def compareAt (items : Array α) (first second : Nat) : M Int :=
  compare (items.getD first default) (items.getD second default)

/-- Exchanges `count` items from one place on with as many from another one on. -/
def swapBlock (items : Array α) (first second : Nat) : Nat → Array α
  | 0 => items
  | count + 1 => swapBlock (items.swapIfInBounds first second) (first + 1) (second + 1) count

/-- The place of the median of the items at three places. -/
def medianPlace (items : Array α) (first second third : Nat) : M Nat := do
  if (← compareAt compare items first second) < 0 then
    if (← compareAt compare items second third) < 0 then return second
    else if (← compareAt compare items first third) < 0 then return third
    else return first
  else
    if (← compareAt compare items second third) > 0 then return second
    else if (← compareAt compare items first third) < 0 then return first
    else return third

/-- A span while it is divided by the item at its base: the items that are the same as it are in
front of `same` and from `sameAbove` on, and those between `low` and `high` have not been
compared. -/
structure Division (α : Type) where
  items : Array α
  same : Nat
  low : Nat
  high : Nat
  sameAbove : Nat

/-- Passes over items that belong to the lower part. -/
def passLower (base : Nat) (division : Division α) : M (Division α) :=
  repeatLoop division fun division => do
    if division.low < division.high then
      let order ← compareAt compare division.items base division.low
      if order < 0 then return .inr division
      else if order = 0 then
        return .inl { division with
          items := division.items.swapIfInBounds division.same division.low
          same := division.same + 1
          low := division.low + 1 }
      else return .inl { division with low := division.low + 1 }
    else return .inr division

/-- Passes over items that belong to the upper part; `high` is the place of the last item
compared. -/
def passUpper (base : Nat) (division : Division α) : M (Division α) :=
  repeatLoop division fun division => do
    let division := { division with high := division.high - 1 }
    if division.low < division.high then
      let order ← compareAt compare division.items base division.high
      if order > 0 then return .inr division
      else if order = 0 then
        return .inl { division with
          items := division.items.swapIfInBounds (division.sameAbove - 1) division.high
          sameAbove := division.sameAbove - 1 }
      else return .inl division
    else return .inr division

/-- Divides a span by the item at its base. -/
def divide (span : Span) (items : Array α) : M (Division α) :=
  let top := span.base + span.count
  let start : Division α := ⟨items, span.base + 1, span.base + 1, top, top⟩
  repeatLoop start fun division => do
    let division ← passUpper compare span.base (← passLower compare span.base division)
    if division.low < division.high then
      return .inl { division with
        items := division.items.swapIfInBounds division.low division.high
        low := division.low + 1 }
    else return .inr division

/-- Lets an item of a heap of `count` items from `base` on sink to its place. -/
def sink (base count : Nat) (items : Array α) (place : Nat) : M (Array α) :=
  repeatLoop (items, place) fun (items, place) => do
    let child := 2 * place + 1
    if child < count then
      let child ←
        if child + 1 < count then do
          let order ← compareAt compare items (base + child) (base + child + 1)
          pure (if order ≤ 0 then child + 1 else child)
        else pure child
      if (← compareAt compare items (base + place) (base + child)) > 0 then return .inr items
      else return .inl (items.swapIfInBounds (base + place) (base + child), child)
    else return .inr items

/-- Sorts a span by means of a heap. -/
def sortHeap (span : Span) (items : Array α) : M (Array α) := do
  let mut items := items
  for index in List.range (span.count / 2) do
    items ← sink compare span.base span.count items (span.count / 2 - 1 - index)
  for index in List.range (span.count - 1) do
    let last := span.count - 1 - index
    items := items.swapIfInBounds span.base (span.base + last)
    items ← sink compare span.base last items 0
  return items

/-- Moves an item down to its place among the sorted ones in front of it. -/
def insertItem (base : Nat) (items : Array α) (place : Nat) : M (Array α) :=
  repeatLoop (items, place) fun (items, place) => do
    if base < place then
      if (← compareAt compare items (place - 1) place) > 0 then
        return .inl (items.swapIfInBounds place (place - 1), place - 1)
      else return .inr items
    else return .inr items

def sortByInsertion (span : Span) (items : Array α) : M (Array α) :=
  (List.range (span.count - 1)).foldlM
    (fun items offset => insertItem compare span.base items (span.base + offset + 1)) items

/-- The number of items up to which a span is sorted by insertion. -/
def shortSpan : Nat := 6

/-- How often a span is divided. -/
def divisionLimit : Nat := 50

/-- Divides a long span in three: the lower and the upper part are left to be sorted, the shorter
one first. -/
def divideSpan (span : Span) (items : Array α) : M (Array α × List Span) := do
  let quarter := span.count / 4
  let pivot ← medianPlace compare items (span.base + quarter) (span.base + 2 * quarter)
    (span.base + 3 * quarter)
  let division ← divide compare span (items.swapIfInBounds span.base pivot)
  let top := span.base + span.count
  -- what is the same as the pivot goes to the middle
  let lower := division.low - division.same
  let moved := min (division.same - span.base) lower
  let items := swapBlock division.items span.base (division.low - moved) moved
  let upper := division.sameAbove - division.low
  let moved := min (top - division.sameAbove) upper
  let items := swapBlock items division.low (top - moved) moved
  let depth := span.depth + 1
  let lowerSpan : Span := ⟨span.base, lower, depth⟩
  let upperSpan : Span := ⟨top - upper, upper, depth⟩
  return (items, if upper < lower then [upperSpan, lowerSpan] else [lowerSpan, upperSpan])

/-- Sorts items by a comparison. -/
def sortBy (items : Array α) : M (Array α) :=
  repeatLoop (items, [(⟨0, items.size, 0⟩ : Span)]) fun (items, spans) => do
    match spans with
    | [] => return .inr items
    | span :: rest =>
      if span.count ≤ shortSpan then return .inl (← sortByInsertion compare span items, rest)
      else if divisionLimit ≤ span.depth then return .inl (← sortHeap compare span items, rest)
      else
        let (items, parts) ← divideSpan compare span items
        return .inl (items, parts ++ rest)

end

end Fingerprint.Script
