import Fingerprint.Regex.Expr

/-!
How large the automaton of an expression is over the bytes of the text.

A pattern is refused if its automaton is larger than `sizeLimit`, whether it reads the text
forward or backward. Sizes are counted in bytes: a state takes `stateSize`, a byte range that
leaves a state takes 8 more if the state has several, and an alternative takes 4.
-/

namespace Fingerprint.Regex

open Unicode (CodePoints)

/-- The largest automaton of a pattern. -/
def sizeLimit : Nat := 10 <<< 20

def stateSize : Nat := 32

/-- Bytes from `first` to `last`. -/
structure ByteRange where
  first : Nat
  last : Nat
deriving DecidableEq, Repr, Inhabited

/-- The bytes of a character. -/
def charBytes (code : Nat) : List Nat :=
  if code < 0x80 then [code]
  else if code < 0x800 then [0xC0 + code / 0x40, 0x80 + code % 0x40]
  else if code < 0x10000 then
    [0xE0 + code / 0x1000, 0x80 + code / 0x40 % 0x40, 0x80 + code % 0x40]
  else
    [0xF0 + code / 0x40000, 0x80 + code / 0x1000 % 0x40, 0x80 + code / 0x40 % 0x40,
      0x80 + code % 0x40]

/-- Where a range has to be split so that the bytes of its characters vary independently: at the
surrogates, where the number of bytes changes, and where a leading byte changes before the bytes
behind it have gone through all values. -/
def splitPoint? (range : Unicode.Range) : Option Nat :=
  let first := range.first
  let last := range.last
  if first < 0xD800 ∧ 0xD7FF < last then some 0xD7FF
  else if first ≤ 0x7F ∧ 0x7F < last then some 0x7F
  else if first ≤ 0x7FF ∧ 0x7FF < last then some 0x7FF
  else if first ≤ 0xFFFF ∧ 0xFFFF < last then some 0xFFFF
  else if last < 0x80 then none
  else [0x40, 0x1000, 0x40000].findSome? fun block =>
    if first / block = last / block then none
    else if first % block ≠ 0 then some (first / block * block + block - 1)
    else if last % block ≠ block - 1 then some (last / block * block - 1)
    else none

/-- The range as sequences of byte ranges, in ascending order. -/
def byteSequences : Nat → Unicode.Range → List (List ByteRange)
  | 0, _ => []
  | fuel + 1, range =>
    if range.last < range.first then []
    else if 0xD800 ≤ range.first ∧ range.first < 0xE000 then
      byteSequences fuel ⟨0xE000, range.last⟩
    else match splitPoint? range with
      | some point =>
        byteSequences fuel ⟨range.first, point⟩ ++ byteSequences fuel ⟨point + 1, range.last⟩
      | none =>
        [List.zipWith ByteRange.mk (charBytes range.first) (charBytes range.last)]

def CodePoints.byteSequences (set : CodePoints) : List (List ByteRange) :=
  set.ranges.flatMap (Regex.byteSequences 32)

/-- The distinct states of an automaton read so far: each lists its byte ranges with the number of
the state that they lead to. -/
abbrev States := List (List (ByteRange × Nat))

/-- The number of a state, entered if it is new. State 0 is the end. -/
def States.number (states : States) (state : List (ByteRange × Nat)) : Nat × States :=
  match states.reverse.findIdx? (· = state) with
  | some index => (index + 1, states)
  | none => (states.length + 1, state :: states)

/-- The sequences grouped by their first byte range. -/
def groupByFirst : List (List ByteRange) → List (ByteRange × List (List ByteRange))
  | [] => []
  | [] :: rest => groupByFirst rest
  | (first :: tail) :: rest =>
    match groupByFirst rest with
    | (range, tails) :: groups =>
      if range = first then (range, tail :: tails) :: groups
      else (first, [tail]) :: (range, tails) :: groups
    | [] => [(first, [tail])]

/-- Enters the states that accept the sequences; the bound is their length. -/
def addSequences : Nat → List (List ByteRange) → States → Nat × States
  | 0, _, states => (0, states)
  | fuel + 1, sequences, states =>
    let groups := groupByFirst sequences
    if groups.isEmpty then (0, states)
    else
      let (state, states) := groups.foldl (fun (state, states) (range, tails) =>
        let (number, states) := addSequences fuel tails states
        ((range, number) :: state, states)) ([], states)
      states.number state.reverse

/-- The size of the states that read one character of a set of ASCII characters. -/
def asciiSize (set : CodePoints) : Nat := 2 * stateSize + 8 * set.ranges.length

/-- The size of the states that read one character of the set forward; equal states are shared. -/
def forwardSize (set : CodePoints) : Nat :=
  if set.allBelow 0x80 then asciiSize set
  else
    let (_, states) := addSequences 5 (CodePoints.byteSequences set) []
    stateSize + (states.map fun state => stateSize + 8 * state.length).foldr (· + ·) 0

/-- The number of distinct non-empty beginnings of the sequences. -/
def beginnings : Nat → List (List ByteRange) → Nat
  | 0, _ => 0
  | fuel + 1, sequences =>
    ((groupByFirst sequences).map fun (_, tails) => 1 + beginnings fuel tails).foldr (· + ·) 0

/-- The size of the states that read one character of the set backward. -/
def backwardSize (set : CodePoints) : Nat :=
  if set.allBelow 0x80 then asciiSize set
  else
    let sequences := CodePoints.byteSequences set
    2 * stateSize + 4 * sequences.length + stateSize * beginnings 5 sequences

/-- A size that no set of characters exceeds in either direction. -/
def roughSize (set : CodePoints) : Nat := 128 + 1024 * set.ranges.length

/-! ### Choices between literals -/

/-- The lists up to each empty one, and those behind the last empty one. -/
def splitAtEmpty : List (List Nat) → List (List (List Nat))
  | [] => [[]]
  | [] :: rest => [] :: splitAtEmpty rest
  | literal :: rest =>
    match splitAtEmpty rest with
    | [] => [[literal]]
    | chunk :: chunks => (literal :: chunk) :: chunks

/-- The tails of lists by their first bytes. -/
def tailsByHead (literals : List (List Nat)) : List (List (List Nat)) :=
  let heads := (literals.filterMap List.head?).eraseDups
  heads.map fun head => (literals.filter (·.head? = some head)).map (·.drop 1)

/-- The size of a choice between literals, of which equal beginnings share their states. A literal
that ends where others go on divides those before it from those behind it. The bound is the length
of the longest literal. -/
def literalsSize : Nat → List (List Nat) → Nat
  | 0, _ => 0
  | bound + 1, literals =>
    let chunks := splitAtEmpty literals
    let chunkSize (chunk : List (List Nat)) : Nat :=
      match tailsByHead chunk with
      | [] => 0
      | groups =>
        let inner := groups.map fun tails =>
          if tails.all List.isEmpty then 0 else literalsSize bound tails
        4 + stateSize + (if groups.length = 1 then 0 else 8 * groups.length) + inner.foldr (· + ·) 0
    (chunks.map chunkSize).foldr (· + ·) 0 + stateSize + 4 * (chunks.length - 1)

/-! ### Expressions -/

/-- A way to read the text: what a character set and the ends of a group take, and the order of the
bytes. -/
structure Direction where
  chars : CodePoints → Nat
  group : Nat
  reversed : Bool

namespace Direction

def forward : Direction := ⟨forwardSize, 2 * stateSize, false⟩

def backward : Direction := ⟨backwardSize, 0, true⟩

/-- A literal's bytes in the order in which they are read. -/
def bytes (direction : Direction) (text : List Char) : List Nat :=
  let bytes := text.flatMap (charBytes ·.toNat)
  if direction.reversed then bytes.reverse else bytes

end Direction

mutual

/-- Whether every match has a length, and the shortest is not empty. -/
def Expr.consumes : Expr → Bool
  | .empty | .assertion _ => false
  | .literal _ => true
  | .chars set => !set.isEmpty
  | .repeat bounds _ body => bounds.least != 0 && body.consumes
  | .group _ body => body.consumes
  | .seq parts => Expr.anyConsumes parts && Expr.allMatchable parts
  | .choice branches => Expr.allConsume branches

def Expr.anyConsumes : List Expr → Bool
  | [] => false
  | part :: rest => part.consumes || Expr.anyConsumes rest

def Expr.allConsume : List Expr → Bool
  | [] => true
  | branch :: rest => branch.consumes && Expr.allConsume rest

/-- Whether the expression holds no empty set of characters. -/
def Expr.matchable : Expr → Bool
  | .chars set => !set.isEmpty
  | .repeat _ _ body => body.matchable
  | .group _ body => body.matchable
  | .seq parts => Expr.allMatchable parts
  | .choice branches => Expr.allMatchable branches
  | _ => true

def Expr.allMatchable : List Expr → Bool
  | [] => true
  | part :: rest => part.matchable && Expr.allMatchable rest

end

/-- The texts of literals, if all expressions are literals. -/
def Expr.literals? (exprs : List Expr) : Option (List (List Char)) :=
  exprs.mapM fun expr =>
    match expr with
    | .literal text => some text
    | _ => none

mutual

/-- The size of the automaton in a direction. -/
def Expr.size (direction : Direction) : Expr → Nat
  | .empty => stateSize
  | .literal text => stateSize * (direction.bytes text).length
  | .chars set => direction.chars set
  | .assertion _ => stateSize
  | .repeat bounds _ body =>
    let one := body.size direction
    let fork := stateSize + 8
    match bounds.least, bounds.most with
    | 0, none => if body.consumes then one + fork else one + 2 * fork + stateSize
    | least, none => one * least + fork
    | 0, some 1 => one + fork + stateSize
    | least, some most =>
      if least = most then one * most
      else one * most + fork * (most - least) + stateSize + (if least = 0 then stateSize else 0)
  | .group _ body => body.size direction + direction.group
  | .seq parts => Expr.sizeOfList direction parts
  | .choice branches =>
    match Expr.literals? branches with
    | some texts =>
      let texts := texts.map direction.bytes
      stateSize + literalsSize ((texts.map List.length).foldl max 0 + 1) texts
    | none => Expr.sizeOfList direction branches + 2 * stateSize + 4 * branches.length

def Expr.sizeOfList (direction : Direction) : List Expr → Nat
  | [] => 0
  | part :: rest => part.size direction + Expr.sizeOfList direction rest

end

mutual

/-- Whether a match can only begin where `kind` holds. -/
def Expr.beginsWith (kind : Assertion) : Expr → Bool
  | .assertion own => own = kind
  | .repeat bounds _ body => bounds.least != 0 && body.beginsWith kind
  | .group _ body => body.beginsWith kind
  | .seq parts => Expr.sequenceBeginsWith kind parts
  | .choice branches => Expr.allBeginWith kind branches
  | _ => false

def Expr.sequenceBeginsWith (kind : Assertion) : List Expr → Bool
  | [] => false
  | part :: rest => part.beginsWith kind || (part.onlyEmpty && Expr.sequenceBeginsWith kind rest)

def Expr.allBeginWith (kind : Assertion) : List Expr → Bool
  | [] => true
  | branch :: rest => branch.beginsWith kind && Expr.allBeginWith kind rest

end

mutual

/-- Whether a match can only end where `kind` holds. -/
def Expr.endsWith (kind : Assertion) : Expr → Bool
  | .assertion own => own = kind
  | .repeat bounds _ body => bounds.least != 0 && body.endsWith kind
  | .group _ body => body.endsWith kind
  | .seq parts => Expr.sequenceEndsWith kind parts
  | .choice branches => Expr.allEndWith kind branches
  | _ => false

def Expr.sequenceEndsWith (kind : Assertion) : List Expr → Bool
  | [] => false
  | part :: rest =>
    Expr.sequenceEndsWith kind rest || (Expr.allOnlyEmpty rest && part.endsWith kind)

def Expr.allEndWith (kind : Assertion) : List Expr → Bool
  | [] => true
  | branch :: rest => branch.endsWith kind && Expr.allEndWith kind rest

end

/-- The size of the whole automaton: around the expression there are the ends of the match, its
acceptance, and the loop that leads to where the match begins, unless that is given. -/
def Expr.wholeSize (direction : Direction) (anchored : Bool) (expr : Expr) : Nat :=
  (if anchored then stateSize else 3 * stateSize + 16) +
    expr.size direction + direction.group + stateSize

/-- Whether the automaton of the expression is within the limit in both directions. -/
def Expr.fits (expr : Expr) : Bool :=
  expr.wholeSize { Direction.forward with chars := roughSize } false ≤ sizeLimit &&
    expr.wholeSize { Direction.backward with chars := roughSize } false ≤ sizeLimit ||
  expr.wholeSize .forward (expr.beginsWith .textStart) ≤ sizeLimit &&
    expr.wholeSize .backward (expr.endsWith .textEnd) ≤ sizeLimit

end Fingerprint.Regex
