import Fingerprint.Unicode.CodePoints
import Fingerprint.Unicode.DecompositionTable

/-!
Normal forms of texts that denote the same characters.

A text is taken apart into base characters and marks, the marks behind each base are put in the
order of their combining classes, and in the composed forms what has a character of its own is put
together again.
-/

namespace Fingerprint.Unicode

/-! ### Finite maps from numbers to sequences of code points

They are written as texts such as `c0>41.300`: a sequence, a mark, and the sequence it goes to. -/

/-- A map laid out for a search that halves the candidates at each step: the keys in ascending
order, and their values at the same places. -/
structure CodeMap where
  keys : Array Nat
  values : Array (List Nat)
deriving Repr, Inhabited

namespace CodeMap

/-- The map of entries with different keys. -/
def ofList (entries : List (Nat × List Nat)) : CodeMap :=
  let sorted := entries.mergeSort fun left right => left.1 ≤ right.1
  ⟨(sorted.map (·.1)).toArray, (sorted.map (·.2)).toArray⟩

/-- Searches the keys from `low` to below `high`. -/
def search (map : CodeMap) (key : Nat) : Nat → Nat → Nat → Option (List Nat)
  | 0, _, _ => none
  | fuel + 1, low, high =>
    if low < high then
      let middle := (low + high) / 2
      let found := map.keys.getD middle 0
      if key < found then map.search key fuel low middle
      else if found < key then map.search key fuel (middle + 1) high
      else map.values[middle]?
    else none

def find? (map : CodeMap) (key : Nat) : Option (List Nat) :=
  map.search key (map.keys.size + 1) 0 map.keys.size

/-- The numbers of a sequence such as `41.300`. -/
def readSequence (chars : List Char) : List Nat :=
  (chars.splitOn '.').map CodePoints.hexNumber

/-- The two sequences of an entry. -/
def readEntry (word : List Char) : List Nat × List Nat :=
  let source := word.takeWhile (· ≠ '>')
  (readSequence source, readSequence (word.drop (source.length + 1)))

/-- The entries of a text. -/
def readEntries (text : String) : List (List Nat × List Nat) := (Text.words text).map readEntry

/-- The map of a text whose entries go from single code points. -/
def ofText (text : String) : CodeMap :=
  ofList ((readEntries text).map fun (source, target) => (source.headD 0, target))

end CodeMap

/-! ### Normal forms -/

/-- A normal form: whether mere presentation is given up, and whether characters are put together
again. -/
structure NormalForm where
  compatibility : Bool
  composed : Bool
deriving DecidableEq, Repr, Inhabited

/-! ### Hangul syllables -/

namespace Hangul

/-- Where the leading consonants, the vowels and the trailing consonants begin; at `trailing` itself
there is none. -/
def leading : Nat := 0x1100

def vowel : Nat := 0x1161

def trailing : Nat := 0x11A7

def syllable : Nat := 0xAC00

def leadingCount : Nat := 19

def vowelCount : Nat := 21

def trailingCount : Nat := 28

def syllableCount : Nat := leadingCount * vowelCount * trailingCount

def isSyllable (code : Nat) : Bool := syllable ≤ code && code < syllable + syllableCount

/-- The letters of a syllable. -/
def decompose (code : Nat) : List Nat :=
  let index := code - syllable
  let letters :=
    [leading + index / (vowelCount * trailingCount),
      vowel + index / trailingCount % vowelCount]
  if index % trailingCount = 0 then letters else letters ++ [trailing + index % trailingCount]

/-- The syllable of a leading consonant and a vowel, or of a syllable that lacks one and a trailing
consonant. -/
def compose? (first second : Nat) : Option Nat :=
  if leading ≤ first && first < leading + leadingCount &&
      vowel ≤ second && second < vowel + vowelCount then
    some (syllable +
      ((first - leading) * vowelCount + (second - vowel)) * trailingCount)
  else if isSyllable first && (first - syllable) % trailingCount = 0 &&
      trailing < second && second < trailing + trailingCount then
    some (first + (second - trailing))
  else none

end Hangul

/-! ### Tables -/

def canonicalMap : CodeMap := .ofText canonicalText

def compatibilityMap : CodeMap := .ofText compatibilityText

/-- The key of a pair of code points. -/
def pairKey (first second : Nat) : Nat := first * (maxCode + 1) + second

def compositionMap : CodeMap :=
  .ofList ((CodeMap.readEntries compositionText).map fun (source, target) =>
    (pairKey (source.headD 0) (source.getLastD 0), target))

def combiningClassIndexes : List (Nat × CodePoints.Index) :=
  combiningClassText.map fun (number, text) => (number, (CodePoints.ofText text).index)

def markedPoints : CodePoints.Index :=
  (CodePoints.ofRanges (combiningClassText.flatMap fun entry =>
    (CodePoints.ofText entry.2).ranges)).index

/-- The class that orders a mark; characters that stay where they are have class 0. -/
def combiningClass (code : Nat) : Nat :=
  if code < 0x300 || !markedPoints.contains code then 0
  else ((combiningClassIndexes.find? (·.2.contains code)).map (·.1)).getD 0

/-! ### The forms -/

/-- What a character is taken apart into. -/
def decomposition (compatibility : Bool) (code : Nat) : List Nat :=
  if code < 0xA0 then [code]
  else if Hangul.isSyllable code then Hangul.decompose code
  else
    let wide := if compatibility then compatibilityMap.find? code else none
    (wide.or (canonicalMap.find? code)).getD [code]

/-- Orders the marks behind each base character by their classes; `marks` are those passed since the
last base character, last first. -/
def orderMarks (marks : List (Nat × Nat)) : List Nat → List Nat
  | [] => sorted marks
  | code :: rest =>
    let order := combiningClass code
    if order = 0 then sorted marks ++ code :: orderMarks [] rest
    else orderMarks ((order, code) :: marks) rest
where
  sorted (marks : List (Nat × Nat)) : List Nat :=
    (marks.reverse.mergeSort fun left right => left.1 ≤ right.1).map (·.2)

/-- The character that two make. -/
def composePair? (first second : Nat) : Option Nat :=
  (Hangul.compose? first second).or do (← compositionMap.find? (pairKey first second)).head?

/-- Puts a base character together with what follows it. `marks` are the marks passed that stayed
apart, last first, and `order` is the class of the last of them. -/
def composeFrom (base : Nat) (marks : List Nat) (order : Nat) : List Nat → List Nat
  | [] => base :: marks.reverse
  | code :: rest =>
    let own := combiningClass code
    match if marks.isEmpty || order < own then composePair? base code else none with
    | some composed => composeFrom composed marks order rest
    | none =>
      if own = 0 then base :: marks.reverse ++ composeFrom code [] 0 rest
      else composeFrom base (code :: marks) own rest

/-- Puts characters together; marks in front of the first base character stay as they are. -/
def compose : List Nat → List Nat
  | [] => []
  | code :: rest =>
    if combiningClass code = 0 then composeFrom code [] 0 rest else code :: compose rest

/-- A text in a normal form. -/
def NormalForm.apply (form : NormalForm) (codes : List Nat) : List Nat :=
  let ordered := orderMarks [] (codes.flatMap (decomposition form.compatibility))
  if form.composed then compose ordered else ordered

def NormalForm.nfc : NormalForm := ⟨false, true⟩

def NormalForm.nfd : NormalForm := ⟨false, false⟩

def NormalForm.nfkc : NormalForm := ⟨true, true⟩

def NormalForm.nfkd : NormalForm := ⟨true, false⟩

end Fingerprint.Unicode
