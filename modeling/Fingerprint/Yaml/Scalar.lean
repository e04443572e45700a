import Fingerprint.Text.Utf8
import Fingerprint.Yaml.Place

/-!
Scalars of a YAML text: plain, quoted and block scalars.

Lines of a plain or quoted scalar are folded: a single line end between them counts as a space, and
further ones count as they are.
-/

namespace Fingerprint.Yaml

/-! ### Folding -/

/-- What stands between two runs of characters of a scalar: blanks, or the first line end and those
after it. -/
structure Gap where
  blanks : List Char
  broken : Bool
  first : List Char
  more : List Char
deriving Repr, Inhabited

namespace Gap

def none : Gap := ⟨[], false, [], []⟩

/-- The characters that a gap counts as. -/
def fold (gap : Gap) : List Char :=
  if gap.broken then
    if gap.first = ['\n'] then (if gap.more.isEmpty then [' '] else gap.more)
    else gap.first ++ gap.more
  else gap.blanks

/-- Reads a gap. A tab that stands before column `tabLimit` in a line of its own is an error. The
bound is one more than the number of characters. -/
def read (tabLimit : Nat) : Nat → Gap → Place → Option (Gap × Place)
  | 0, _, _ => .none
  | fuel + 1, gap, place =>
    match place.chars with
    | [] => some (gap, place)
    | c :: _ =>
      if isBlank c then
        if gap.broken then
          if c = '\t' && place.column < tabLimit then .none
          else read tabLimit fuel gap (place.advance 1)
        else read tabLimit fuel { gap with blanks := gap.blanks ++ [c] } (place.advance 1)
      else if isBreak c then
        let (line, next) := place.readLine
        if gap.broken then read tabLimit fuel { gap with more := gap.more ++ line } next
        else read tabLimit fuel ⟨[], true, line, []⟩ next
      else some (gap, place)

end Gap

/-! ### Plain scalars -/

def isFlowMark (c : Char) : Bool := c = ',' || c = '[' || c = ']' || c = '{' || c = '}'

/-- A run of characters of a plain scalar. A colon in a collection in brackets must not stand
directly before one of its marks. -/
def plainRun? (inFlow : Bool) : List Char → Option (List Char)
  | [] => some []
  | c :: rest =>
    if isBlank c || isBreak c then some []
    else if inFlow && c = ':' && rest.head?.any (fun next => isFlowMark next || next = '?') then
      none
    else if (c = ':' && isBlankOrEnd rest) || (inFlow && isFlowMark c) then some []
    else (plainRun? inFlow rest).map (c :: ·)

/-- A plain scalar whose lines after the first are indented to column `indent` at least: its text,
whether a line ended behind it, and the place behind it. -/
def readPlain (inFlow : Bool) (indent : Nat) :
    Nat → List Char → Gap → Place → Option (List Char × Bool × Place)
  | 0, _, _, _ => none
  | fuel + 1, text, gap, place =>
    if place.atDocumentMark || place.chars.head? = some '#' then some (text, gap.broken, place)
    else
      match plainRun? inFlow place.chars with
      | none => none
      | some run =>
        let text := if run.isEmpty then text else text ++ gap.fold ++ run
        let gap := if run.isEmpty then gap else .none
        let place := place.advance run.length
        if place.chars.isEmpty || !isBlankOrEnd place.chars then some (text, gap.broken, place)
        else
          match Gap.read indent (place.chars.length + 1) gap place with
          | none => none
          | some (gap, place) =>
            if !inFlow && place.column < indent then some (text, gap.broken, place)
            else readPlain inFlow indent fuel text gap place

/-! ### Quoted scalars -/

/-- The character of an escape of one letter. -/
def escape? : Char → Option Char
  | '0' => some '\x00'
  | 'a' => some '\x07'
  | 'b' => some '\x08'
  | 't' => some '\t'
  | '\t' => some '\t'
  | 'n' => some '\n'
  | 'v' => some '\x0b'
  | 'f' => some '\x0c'
  | 'r' => some '\r'
  | 'e' => some '\x1b'
  | ' ' => some ' '
  | '"' => some '"'
  | '/' => some '/'
  | '\\' => some '\\'
  | 'N' => some '\u0085'
  | '_' => some '\u00a0'
  | 'L' => some '\u2028'
  | 'P' => some '\u2029'
  | _ => none

/-- The number of hexadecimal digits behind an escape of this letter. -/
def escapeDigits? : Char → Option Nat
  | 'x' => some 2
  | 'u' => some 4
  | 'U' => some 8
  | _ => none

/-- The character with the number that exactly `count` hexadecimal digits write. -/
def numberedChar? (count : Nat) (chars : List Char) : Option Char := do
  let digits := chars.take count
  let number ← digits.foldlM (fun value c => return value * 16 + (← Text.hexValue? c)) 0
  if digits.length = count && number ≤ 0x10FFFF && !(0xD800 ≤ number && number ≤ 0xDFFF) then
    return Char.ofNat number
  else none

/-- A run of characters of a quoted scalar up to a blank, a line end or the closing quote. The flag
tells that a line end behind a backslash was passed. -/
def quotedRun (single : Bool) : Nat → List Char → Place → Option (List Char × Bool × Place)
  | 0, _, _ => none
  | fuel + 1, run, place =>
    let stop := some (run.reverse, false, place)
    match place.chars with
    | [] => stop
    | c :: rest =>
      if isBlank c || isBreak c then stop
      else if single then
        match c, rest with
        | '\'', '\'' :: _ => quotedRun single fuel ('\'' :: run) (place.advance 2)
        | '\'', _ => stop
        | _, _ => quotedRun single fuel (c :: run) (place.advance 1)
      else if c = '"' then stop
      else if c = '\\' then
        match rest with
        | [] => none
        | letter :: digits =>
          if isBreak letter then some (run.reverse, true, (place.advance 1).skipLine)
          else match escape? letter, escapeDigits? letter with
            | some value, _ => quotedRun single fuel (value :: run) (place.advance 2)
            | none, some count =>
              match numberedChar? count digits with
              | some value => quotedRun single fuel (value :: run) (place.advance (2 + count))
              | none => none
            | none, none => none
      else quotedRun single fuel (c :: run) (place.advance 1)

/-- A quoted scalar whose opening quote was passed: its text and the place behind it. -/
def readQuoted (single : Bool) : Nat → List Char → Place → Option (List Char × Place)
  | 0, _, _ => none
  | fuel + 1, text, place =>
    if place.atDocumentMark || place.chars.isEmpty then none
    else
      match quotedRun single (place.chars.length + 1) [] place with
      | none => none
      | some (run, broken, place) =>
        let text := text ++ run
        if place.chars.head? = some (if single then '\'' else '"') then
          some (text, place.advance 1)
        else
          match Gap.read 0 (place.chars.length + 1) ⟨[], broken, [], []⟩ place with
          | none => none
          | some (gap, place) => readQuoted single fuel (text ++ gap.fold) place

/-! ### Block scalars -/

/-- Which line ends at the end of a block scalar count. -/
inductive Chomping where
  | strip
  | clip
  | keep
deriving DecidableEq, Repr, Inhabited

def chomping? : Char → Option Chomping
  | '-' => some .strip
  | '+' => some .keep
  | _ => none

def indentDigit? (c : Char) : Option Nat :=
  if c.isDigit then some (c.toNat - '0'.toNat) else none

/-- The indicators behind the mark of a block scalar, in either order. The indentation must not be
zero. -/
def blockHeader? (chars : List Char) : Option (Chomping × Option Nat × Nat) :=
  let valid (chomping : Chomping) (digit : Nat) (length : Nat) :=
    if digit = 0 then none else some (chomping, some digit, length)
  match chars with
  | first :: rest =>
    match chomping? first, indentDigit? first with
    | some chomping, _ =>
      match rest.head?.bind indentDigit? with
      | some digit => valid chomping digit 2
      | none => some (chomping, none, 1)
    | none, some digit =>
      match rest.head?.bind chomping? with
      | some chomping => valid chomping digit 2
      | none => valid .clip digit 1
    | none, none => some (.clip, none, 0)
  | [] => some (.clip, none, 0)

/-- Reads the empty lines before a line of a block scalar and the indentation of that line. As long
as `indent` is unknown all spaces count as indentation; `widest` is the widest so far. The line ends
come back in order. -/
def readBlockLines (indent : Option Nat) :
    Nat → Nat → List Char → Place → Option (Nat × List Char × Place)
  | 0, _, _, _ => none
  | fuel + 1, widest, lines, place =>
    let run := place.chars.takeWhile (· = ' ')
    let count := match indent with
      | some indent => min run.length (indent - place.column)
      | none => run.length
    let place := place.advance count
    let widest := max widest place.column
    let early := match indent with
      | some indent => place.column < indent
      | none => true
    if early && place.chars.head? = some '\t' then none
    else if place.chars.head?.any isBreak then
      let (line, next) := place.readLine
      readBlockLines indent fuel widest (lines ++ line) next
    else some (widest, lines, place)

/-- The lines of a block scalar. `ending` is the line end behind the text so far, `empty` are the
empty lines behind it, and `wasBlank` tells whether its last line began with a blank. -/
def readBlockBody (literal : Bool) (chomping : Chomping) (indent : Nat) :
    Nat → List Char → List Char → List Char → Bool → Place → Option (List Char × Place)
  | 0, _, _, _, _, _ => none
  | fuel + 1, text, ending, empty, wasBlank, place =>
    if place.column = indent && !place.chars.isEmpty then
      let isBlank := place.chars.head?.any isBlank
      let folds := !literal && ending = ['\n'] && !wasBlank && !isBlank
      let text :=
        if folds then text ++ (if empty.isEmpty then [' '] else []) ++ empty
        else text ++ ending ++ empty
      let (run, place) := place.span (!isBreak ·)
      let (ending, place) := place.readLine
      match readBlockLines (some indent) (place.chars.length + 1) 0 [] place with
      | none => none
      | some (_, empty, place) =>
        readBlockBody literal chomping indent fuel (text ++ run) ending empty isBlank place
    else
      let tail := match chomping with
        | .strip => []
        | .clip => ending
        | .keep => ending ++ empty
      some (text ++ tail, place)

/-- A block scalar whose mark was passed, inside a block indented to column `outer` (`-1` at the
top). -/
def readBlock (literal : Bool) (outer : Int) (place : Place) : Option (List Char × Place) := do
  let (chomping, increment, length) ← blockHeader? place.chars
  let place := ((place.advance length).skip isBlank).skipComment
  if !isLineEnd place.chars then none
  else
    let place := place.skipLine
    let given := increment.map fun increment => outer.toNat + increment
    let (widest, empty, place) ← readBlockLines given (place.chars.length + 1) 0 [] place
    let indent := given.getD (max (max widest (outer + 1).toNat) 1)
    readBlockBody literal chomping indent (place.chars.length + 1) [] [] empty false place

end Fingerprint.Yaml
