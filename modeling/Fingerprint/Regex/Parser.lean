import Fingerprint.Regex.Syntax
import Fingerprint.Text.Words
import Fingerprint.Unicode.Property

/-!
Reading patterns.

The readers take the characters that are left and return what they read with the characters after
it. `verbose` tells whether white space and comments are skipped. Each reader that can recurse
takes fuel; the length of the pattern is enough, since every step consumes a character.
-/

namespace Fingerprint.Regex

open Text (isBlank)

/-- The characters after the next line break. -/
def afterLine : List Char → List Char
  | [] => []
  | c :: rest => if c = '\n' then rest else afterLine rest

theorem afterLine_length_le (chars : List Char) : (afterLine chars).length ≤ chars.length := by
  induction chars with
  | nil => simp [afterLine]
  | cons c rest ih =>
    unfold afterLine
    split
    · simp
    · simp only [List.length_cons]
      omega

/-- The characters after white space and comments. -/
def skipSpace (verbose : Bool) (chars : List Char) : List Char :=
  if verbose then go chars.length chars else chars
where
  go : Nat → List Char → List Char
    | 0, rest => rest
    | _ + 1, [] => []
    | fuel + 1, c :: rest =>
      if isBlank c then go fuel rest
      else if c = '#' then go fuel (afterLine rest)
      else c :: rest

/-- The characters after the first one and the white space behind it. -/
def bump (verbose : Bool) (chars : List Char) : List Char :=
  skipSpace verbose (chars.drop 1)

/-- The character after the first one. In verbose patterns white space is passed over, and of a
comment only the mark that opens it. -/
def peekSpace (verbose : Bool) (chars : List Char) : Option Char :=
  if verbose then go false (chars.drop 1) else (chars.drop 1).head?
where
  go : Bool → List Char → Option Char
    | _, [] => none
    | inComment, c :: rest =>
      if isBlank c then go inComment rest
      else if !inComment && c = '#' then go true rest
      else some c

/-- Characters that have a meaning of their own. -/
def isMeta (c : Char) : Bool :=
  "\\.+*?()|[]\x7b\x7d^$#&-~".toList.contains c

/-- Characters that a backslash makes literal: meta characters and all ASCII characters but
letters, digits and angle brackets. -/
def isEscapable (c : Char) : Bool :=
  isMeta c || (c.toNat < 0x80 && !c.isAlphanum && c ≠ '<' && c ≠ '>')

def isHexDigit (c : Char) : Bool := (Text.hexValue? c).isSome

def hexValue (digits : List Char) : Nat :=
  digits.foldl (fun value c => value * 16 + (Text.hexValue? c).getD 0) 0

/-- The character with this number; surrogates are not characters. -/
def charOfCode? (code : Nat) : Option Char :=
  if code.isValidChar then some (Char.ofNat code) else none

def decimalValue (digits : List Char) : Nat :=
  digits.foldl (fun value c => value * 10 + (c.toNat - '0'.toNat)) 0

/-- The leading characters that satisfy `keep`, each followed by skipped white space. -/
def takeSpaced (verbose : Bool) (keep : Char → Bool) : Nat → List Char → List Char × List Char
  | 0, chars => ([], chars)
  | _ + 1, [] => ([], [])
  | fuel + 1, c :: rest =>
    if keep c then
      let (taken, after) := takeSpaced verbose keep fuel (skipSpace verbose rest)
      (c :: taken, after)
    else
      ([], c :: rest)

/-- A decimal number below 2^32, with white space around it. -/
def readDecimal (verbose : Bool) (chars : List Char) : Except SyntaxError Nat × List Char :=
  let start := chars.dropWhile isBlank
  let (digits, after) := takeSpaced verbose Char.isDigit start.length start
  let (_, after) := takeSpaced verbose isBlank after.length after
  if digits.isEmpty then (.error .decimalEmpty, after)
  else if decimalValue digits < 1 <<< 32 then (.ok (decimalValue digits), after)
  else (.error .decimalInvalid, after)

/-- The digits of `\xHH`, `\uHHHH` or `\UHHHHHHHH`. -/
def readHexDigits (verbose : Bool) :
    Nat → List Char → List Char → Except SyntaxError (List Char × List Char)
  | 0, digits, chars => .ok (digits.reverse, chars)
  | count + 1, digits, chars =>
    match chars with
    | [] => .error .escapeUnexpectedEnd
    | c :: rest =>
      if isHexDigit c then readHexDigits verbose count (c :: digits) (skipSpace verbose rest)
      else .error .escapeHexInvalidDigit

/-- A hexadecimal escape from its letter on. -/
def readHex (verbose : Bool) (letter : Char) (chars : List Char) :
    Except SyntaxError (Literal × List Char) :=
  match bump verbose chars with
  | [] => .error .escapeUnexpectedEnd
  | '{' :: rest =>
    let start := skipSpace verbose rest
    let (digits, after) := takeSpaced verbose isHexDigit start.length start
    match after with
    | [] => .error .escapeUnexpectedEnd
    | '}' :: after =>
      if digits.isEmpty then .error .escapeHexEmpty
      else match charOfCode? (hexValue digits) with
        | some c => .ok (⟨c, false⟩, skipSpace verbose after)
        | none => .error .escapeHexInvalid
    | _ => .error .escapeHexInvalidDigit
  | start => do
    let count := if letter = 'x' then 2 else if letter = 'u' then 4 else 8
    let (digits, after) ← readHexDigits verbose count [] start
    match charOfCode? (hexValue digits) with
    | some c => return (⟨c, letter = 'x'⟩, after)
    | none => .error .escapeHexInvalid

/-- Splits at the first occurrence of `mark`. -/
def splitAtMark (mark : List Char) : List Char → Option (List Char × List Char)
  | [] => none
  | c :: rest =>
    if mark.isPrefixOf (c :: rest) then some ([], (c :: rest).drop mark.length)
    else (splitAtMark mark rest).map fun (before, after) => (c :: before, after)

/-- What stands between the braces of `\p{…}`; the flag tells a value that is ruled out. -/
def propertyOfText (text : List Char) : PropertyQuery × Bool :=
  let valued (parts : List Char × List Char) : PropertyQuery :=
    .valued (String.ofList parts.1) (String.ofList parts.2)
  match splitAtMark ['!', '='] text with
  | some parts => (valued parts, true)
  | none => match splitAtMark [':'] text with
    | some parts => (valued parts, false)
    | none => match splitAtMark ['='] text with
      | some parts => (valued parts, false)
      | none => (.named (String.ofList text), false)

/-- A property class from its letter `p` or `P` on. -/
def readProperty (verbose : Bool) (chars : List Char) :
    Except SyntaxError ((PropertyQuery × Bool) × List Char) :=
  let negated := chars.head? = some 'P'
  match bump verbose chars with
  | [] => .error .escapeUnexpectedEnd
  | '{' :: rest =>
    let start := skipSpace verbose rest
    let (text, after) := takeSpaced verbose (· ≠ '}') start.length start
    match after with
    | [] => .error .escapeUnexpectedEnd
    | _ :: after =>
      let (query, flipped) := propertyOfText text
      .ok ((query, negated != flipped), after)
  | '\\' :: _ => .error .unicodeClassInvalid
  | c :: rest => .ok ((.named (String.singleton c), negated), skipSpace verbose rest)

/-- What an escape denotes. -/
inductive Escape where
  | literal (literal : Literal)
  | perl (kind : PerlClass) (negated : Bool)
  | property (query : PropertyQuery) (negated : Bool)
  | assertion (kind : AssertionKind)
deriving Repr

/-- The name in braces after `\b`, if one stands there; otherwise the brace opens a repetition. -/
def readBoundaryName (verbose : Bool) (chars : List Char) :
    Except SyntaxError (AssertionKind × List Char) :=
  match chars with
  | '{' :: _ =>
    let isNameChar (c : Char) : Bool := c.isAlpha || c = '-'
    match bump verbose chars with
    | [] => .error .wordOrRepetitionUnexpectedEnd
    | c :: rest =>
      if !isNameChar c then .ok (.wordBoundary, chars)
      else
        let (name, after) := takeSpaced verbose isNameChar (c :: rest).length (c :: rest)
        match after with
        | '}' :: after =>
          match String.ofList name with
          | "start" => .ok (.wordStart, after)
          | "end" => .ok (.wordEnd, after)
          | "start-half" => .ok (.wordStartHalf, after)
          | "end-half" => .ok (.wordEndHalf, after)
          | _ => .error .wordBoundaryUnrecognized
        | _ => .error .wordBoundaryUnclosed
  | _ => .ok (.wordBoundary, chars)

/-- An escape from its backslash on. -/
def readEscape (verbose : Bool) (chars : List Char) : Except SyntaxError (Escape × List Char) :=
  match chars.drop 1 with
  | [] => .error .escapeUnexpectedEnd
  | c :: rest =>
    let char (c : Char) : Except SyntaxError (Escape × List Char) := .ok (.literal ⟨c, false⟩, rest)
    let assertion (kind : AssertionKind) : Except SyntaxError (Escape × List Char) :=
      .ok (.assertion kind, rest)
    if c.isDigit then .error .unsupportedBackreference
    else if c = 'x' || c = 'u' || c = 'U' then do
      let (literal, after) ← readHex verbose c (c :: rest)
      return (.literal literal, after)
    else if c = 'p' || c = 'P' then do
      let ((query, negated), after) ← readProperty verbose (c :: rest)
      return (.property query negated, after)
    else if isEscapable c then char c
    else match c with
      | 'd' => .ok (.perl .digit false, rest)
      | 'D' => .ok (.perl .digit true, rest)
      | 's' => .ok (.perl .space false, rest)
      | 'S' => .ok (.perl .space true, rest)
      | 'w' => .ok (.perl .word false, rest)
      | 'W' => .ok (.perl .word true, rest)
      | 'a' => char '\x07'
      | 'f' => char '\x0c'
      | 't' => char '\t'
      | 'n' => char '\n'
      | 'r' => char '\r'
      | 'v' => char '\x0b'
      | 'A' => assertion .startText
      | 'z' => assertion .endText
      | 'b' => do
        let (kind, after) ← readBoundaryName verbose rest
        return (.assertion kind, after)
      | 'B' => assertion .notWordBoundary
      | '<' => assertion .wordStart
      | '>' => assertion .wordEnd
      | _ => .error .escapeUnrecognized

/-! ### Bracketed classes -/

def asciiClassNamed? : String → Option AsciiClass
  | "alnum" => some .alnum
  | "alpha" => some .alpha
  | "ascii" => some .ascii
  | "blank" => some .blank
  | "cntrl" => some .cntrl
  | "digit" => some .digit
  | "graph" => some .graph
  | "lower" => some .lower
  | "print" => some .print
  | "punct" => some .punct
  | "space" => some .space
  | "upper" => some .upper
  | "word" => some .word
  | "xdigit" => some .xdigit
  | _ => none

/-- A class `[:name:]`, if one stands here. -/
def readAsciiClass? (chars : List Char) : Option (ClassSet × List Char) :=
  match chars with
  | '[' :: ':' :: rest =>
    let negated := rest.head? = some '^'
    let start := if negated then rest.drop 1 else rest
    let name := start.takeWhile (· ≠ ':')
    match start.dropWhile (· ≠ ':') with
    | ':' :: ']' :: after =>
      (asciiClassNamed? (String.ofList name)).map fun kind => (.ascii kind negated, after)
    | _ => none
  | _ => none

/-- One element of a class: an escape or a character that stands for itself. -/
def readClassElement (verbose : Bool) (chars : List Char) :
    Except SyntaxError (Escape × List Char) :=
  match chars with
  | [] => .error .classUnclosed
  | '\\' :: _ => readEscape verbose chars
  | c :: rest => .ok (.literal ⟨c, false⟩, rest)

def Escape.toClassSet : Escape → Except SyntaxError ClassSet
  | .literal symbol => .ok (.literal symbol)
  | .perl kind negated => .ok (.perl kind negated)
  | .property query negated => .ok (.property query negated)
  | .assertion _ => .error .classEscapeInvalid

def Escape.toLiteral : Escape → Except SyntaxError Literal
  | .literal symbol => .ok symbol
  | _ => .error .classRangeLiteral

/-- An element or a range. A dash before a closing bracket or a second dash opens no range. -/
def readClassRange (verbose : Bool) (chars : List Char) :
    Except SyntaxError (ClassSet × List Char) := do
  let (first, after) ← readClassElement verbose chars
  let after := skipSpace verbose after
  match after with
  | [] => .error .classUnclosed
  | c :: _ =>
    let next := peekSpace verbose after
    if c ≠ '-' || next = some ']' || next = some '-' then
      return (← first.toClassSet, after)
    else
      let start := bump verbose after
      if start.isEmpty then .error .classUnclosed
      else
        let (last, after) ← readClassElement verbose start
        let first ← first.toLiteral
        let last ← last.toLiteral
        if first.char ≤ last.char then return (.range first last, after)
        else .error .classRangeInvalid

/-- The dashes at the beginning of a class, which stand for themselves. -/
def readLeadingDashes (verbose : Bool) : Nat → List Char → List ClassSet × List Char
  | 0, chars => ([], chars)
  | fuel + 1, chars =>
    match chars with
    | '-' :: _ =>
      let (dashes, after) := readLeadingDashes verbose fuel (bump verbose chars)
      (.literal ⟨'-', false⟩ :: dashes, after)
    | _ => ([], chars)

/-- What stands at the beginning of a class: whether it is negated, and the dashes or the closing
bracket that stand for themselves there. The items are listed last first. -/
def readClassOpen (verbose : Bool) (chars : List Char) :
    Except SyntaxError ((Bool × List ClassSet) × List Char) :=
  let start := bump verbose chars
  let negated := start.head? = some '^'
  let start := if negated then bump verbose start else start
  let (dashes, start) := readLeadingDashes verbose start.length start
  match dashes, start with
  | _, [] => .error .classUnclosed
  | [], ']' :: _ =>
    let after := bump verbose start
    if after.isEmpty then .error .classUnclosed
    else .ok ((negated, [.literal ⟨']', false⟩]), after)
  | dashes, start => .ok ((negated, dashes.reverse), start)

/-- A class whose closing bracket has not been reached. The operators of one class group to the
left, so at most one operand waits. -/
structure OpenClass where
  negated : Bool
  waiting : Option (SetOperator × ClassSet)
  items : List ClassSet

namespace OpenClass

def push (open_ : OpenClass) (item : ClassSet) : OpenClass :=
  { open_ with items := item :: open_.items }

/-- The class read so far: the items joined, and applied to the waiting operand. -/
def contents (open_ : OpenClass) : ClassSet :=
  let right := ClassSet.ofItems open_.items.reverse
  match open_.waiting with
  | none => right
  | some (operator, left) => .operation operator left right

def operate (open_ : OpenClass) (operator : SetOperator) : OpenClass :=
  { open_ with waiting := some (operator, open_.contents), items := [] }

end OpenClass

/-- The rest of a bracketed class. `current` is the innermost open class, `outer` the ones around
it from the inside out. -/
def readClassItems (verbose : Bool) :
    Nat → OpenClass → List OpenClass → List Char →
      Except SyntaxError ((Bool × ClassSet) × List Char)
  | 0, _, _, _ => .error .classUnclosed
  | fuel + 1, current, outer, chars =>
    let chars := skipSpace verbose chars
    match chars with
    | [] => .error .classUnclosed
    | '[' :: _ =>
      match readAsciiClass? chars with
      | some (item, after) => readClassItems verbose fuel (current.push item) outer after
      | none => do
        let ((negated, items), after) ← readClassOpen verbose chars
        readClassItems verbose fuel ⟨negated, none, items⟩ (current :: outer) after
    | ']' :: rest =>
      match outer with
      | [] => .ok ((current.negated, current.contents), rest)
      | parent :: outer =>
        let item := ClassSet.bracketed current.negated current.contents
        readClassItems verbose fuel (parent.push item) outer rest
    | '&' :: '&' :: rest => readClassItems verbose fuel (current.operate .intersection) outer rest
    | '-' :: '-' :: rest => readClassItems verbose fuel (current.operate .difference) outer rest
    | '~' :: '~' :: rest =>
      readClassItems verbose fuel (current.operate .symmetricDifference) outer rest
    | _ => do
      let (item, after) ← readClassRange verbose chars
      readClassItems verbose fuel (current.push item) outer after

/-- A bracketed class from its opening bracket on. -/
def readClass (verbose : Bool) (chars : List Char) : Except SyntaxError (Ast × List Char) := do
  let ((negated, items), after) ← readClassOpen verbose chars
  let ((negated, contents), after) ←
    readClassItems verbose chars.length ⟨negated, none, items⟩ [] after
  return (.bracketed negated contents, after)

/-! ### Groups and repetitions -/

def flagOf? : Char → Option Flag
  | 'i' => some .caseInsensitive
  | 'm' => some .multiLine
  | 's' => some .dotMatchesNewLine
  | 'U' => some .swapGreed
  | 'u' => some .unicode
  | 'R' => some .crlf
  | 'x' => some .ignoreSpace
  | _ => none

/-- Flags up to the colon or parenthesis that ends them. `dashed` tells that a dash was read,
`dangling` that it was the last character. -/
def readFlags (flags : FlagList) (dashed dangling : Bool) :
    List Char → Except SyntaxError (FlagList × List Char)
  | [] => .error .flagUnexpectedEnd
  | c :: rest =>
    if c = ':' || c = ')' then
      if dangling then .error .flagDanglingNegation else .ok (flags, c :: rest)
    else if c = '-' then
      if dashed then .error .flagRepeatedNegation else readFlags flags true true rest
    else match flagOf? c with
      | none => .error .flagUnrecognized
      | some flag =>
        if (flags.set ++ flags.clear).contains flag then .error .flagDuplicate
        else if dashed then readFlags { flags with clear := flags.clear ++ [flag] } true false rest
        else readFlags { flags with set := flags.set ++ [flag] } false false rest

/-- Alphabetic characters. -/
def alphabetic : Unicode.CodePoints :=
  Unicode.CodePoints.ofText ((Unicode.propertyText.lookup "Alphabetic").getD "")

def numeric : Unicode.CodePoints := Unicode.categories ["Nd", "Nl", "No"]

/-- Characters of a group name. It begins with a letter or an underscore. -/
def isNameChar (isFirst : Bool) (c : Char) : Bool :=
  c = '_' || (if c.toNat < 0x80 then c.isAlpha else alphabetic.contains c.toNat) ||
  (!isFirst && (c = '.' || c = '[' || c = ']' ||
    (if c.toNat < 0x80 then c.isDigit else numeric.contains c.toNat)))

/-- A group name and the angle bracket after it. -/
def readName (name : List Char) : List Char → Except SyntaxError (String × List Char)
  | [] => .error .groupNameUnexpectedEnd
  | c :: rest =>
    if c = '>' then
      if name.isEmpty then .error .groupNameEmpty else .ok (String.ofList name.reverse, rest)
    else if isNameChar name.isEmpty c then readName (c :: name) rest
    else .error .groupNameInvalid

/-- What an opening parenthesis begins. -/
inductive GroupOpen where
  | flags (flags : FlagList)
  | group (kind : GroupKind)

/-- The beginning of a group from its parenthesis on. `captures` counts the capture groups so far,
`names` holds their names. -/
def readGroupOpen (verbose : Bool) (captures : Nat) (names : List String) (chars : List Char) :
    Except SyntaxError (GroupOpen × List Char) :=
  let named (rest : List Char) : Except SyntaxError (GroupOpen × List Char) := do
    let (name, after) ← readName [] rest
    if names.contains name then .error .groupNameDuplicate
    else return (.group (.named (captures + 1) name), after)
  match bump verbose chars with
  | '?' :: '=' :: _ | '?' :: '!' :: _ | '?' :: '<' :: '=' :: _ | '?' :: '<' :: '!' :: _ =>
    .error .unsupportedLookAround
  | '?' :: 'P' :: '<' :: rest => named rest
  | '?' :: '<' :: rest => named rest
  | '?' :: rest =>
    if rest.isEmpty then .error .groupUnclosed
    else do
      let (flags, after) ← readFlags ⟨[], []⟩ false false rest
      match after with
      | ')' :: after =>
        if flags.set.isEmpty && flags.clear.isEmpty then .error .repetitionMissing
        else return (.flags flags, after)
      | _ => return (.group (.plain flags), after.drop 1)
  | start => .ok (.group (.capture (captures + 1)), start)

/-- The last part of a sequence, which a repetition applies to. -/
def popRepeatable : List Ast → Except SyntaxError (Ast × List Ast)
  | [] | .empty :: _ | .flags _ :: _ => .error .repetitionMissing
  | ast :: rest => .ok (ast, rest)

/-- A question mark after a repetition makes it lazy. -/
def readLazy (chars : List Char) : Bool × List Char :=
  match chars with
  | '?' :: rest => (false, rest)
  | _ => (true, chars)

/-- The counts of a repetition from its brace on. -/
def readCounts (verbose : Bool) (chars : List Char) : Except SyntaxError (Bounds × List Char) :=
  let count (decimal : Except SyntaxError Nat) : Except SyntaxError Nat :=
    match decimal with
    | .error .decimalEmpty => .error .repetitionCountEmpty
    | other => other
  let close (bounds : Bounds) (after : List Char) : Except SyntaxError (Bounds × List Char) :=
    match after with
    | '}' :: after => .ok (bounds, after)
    | _ => .error .repetitionCountUnclosed
  match bump verbose chars with
  | [] => .error .repetitionCountUnclosed
  | start =>
    let (decimal, after) := readDecimal verbose start
    match after with
    | [] => .error .repetitionCountUnclosed
    | ',' :: _ =>
      match bump verbose after with
      | [] => .error .repetitionCountUnclosed
      | '}' :: after => do close ⟨← count decimal, none⟩ ('}' :: after)
      | start => do
        let least ← count decimal
        let (decimal, after) := readDecimal verbose start
        let most ← count decimal
        close ⟨least, some most⟩ after
    | _ => do
      let exact ← count decimal
      close ⟨exact, some exact⟩ after

/-- What a reader of sequences knows: the part of the current branch read so far, last first; the
branches before it, last first; the capture groups and whether white space is skipped. -/
structure Progress where
  parts : List Ast
  branches : List Ast
  captures : Nat
  names : List String
  verbose : Bool

namespace Progress

def push (progress : Progress) (ast : Ast) : Progress :=
  { progress with parts := ast :: progress.parts }

/-- The choice read so far. -/
def ast (progress : Progress) : Ast :=
  let branch := Ast.ofParts progress.parts.reverse
  Ast.ofBranches ((branch :: progress.branches).reverse)

end Progress

/-- Reads branches up to the end of the pattern or the parenthesis that closes the group around
them, which is left. -/
def readBranches : Nat → Progress → List Char → Except SyntaxError (Progress × List Char)
  | 0, progress, chars => .ok (progress, chars)
  | fuel + 1, progress, chars =>
    let verbose := progress.verbose
    let chars := skipSpace verbose chars
    let repeated (bounds : Bounds) (after : List Char) :
        Except SyntaxError (Progress × List Char) := do
      let (body, parts) ← popRepeatable progress.parts
      let (greedy, after) := readLazy after
      readBranches fuel { progress with parts := .repetition bounds greedy body :: parts } after
    match chars with
    | [] => .ok (progress, [])
    | ')' :: _ => .ok (progress, chars)
    | '(' :: _ => do
      let (opened, after) ← readGroupOpen verbose progress.captures progress.names chars
      match opened with
      | .flags flags =>
        let verbose := (flags.state? .ignoreSpace).getD verbose
        readBranches fuel { progress.push (.flags flags) with verbose := verbose } after
      | .group kind =>
        let inner : Progress := match kind with
          | .capture index => ⟨[], [], index, progress.names, verbose⟩
          | .named index name => ⟨[], [], index, name :: progress.names, verbose⟩
          | .plain flags =>
            ⟨[], [], progress.captures, progress.names, (flags.state? .ignoreSpace).getD verbose⟩
        let (inner, after) ← readBranches fuel inner after
        match after with
        | ')' :: after =>
          let progress := progress.push (.group kind inner.ast)
          readBranches fuel
            { progress with captures := inner.captures, names := inner.names } after
        | _ => .error .groupUnclosed
    | '|' :: rest =>
      let branch := Ast.ofParts progress.parts.reverse
      readBranches fuel
        { progress with parts := [], branches := branch :: progress.branches } rest
    | '[' :: _ => do
      let (ast, after) ← readClass verbose chars
      readBranches fuel (progress.push ast) after
    | '?' :: rest => repeated ⟨0, some 1⟩ rest
    | '*' :: rest => repeated ⟨0, none⟩ rest
    | '+' :: rest => repeated ⟨1, none⟩ rest
    | '{' :: _ => do
      let (body, parts) ← popRepeatable progress.parts
      let (bounds, after) ← readCounts verbose chars
      let (greedy, after) := readLazy (skipSpace verbose after)
      if bounds.most.any (· < bounds.least) then .error .repetitionCountInvalid
      else
        readBranches fuel { progress with parts := .repetition bounds greedy body :: parts } after
    | '\\' :: _ => do
      let (escape, after) ← readEscape verbose chars
      let ast : Ast := match escape with
        | .literal literal => .literal literal
        | .perl kind negated => .perl kind negated
        | .property query negated => .property query negated
        | .assertion kind => .assertion kind
      readBranches fuel (progress.push ast) after
    | '.' :: rest => readBranches fuel (progress.push .dot) rest
    | '^' :: rest => readBranches fuel (progress.push (.assertion .startLine)) rest
    | '$' :: rest => readBranches fuel (progress.push (.assertion .endLine)) rest
    | c :: rest => readBranches fuel (progress.push (.literal ⟨c, false⟩)) rest

/-- Reads a whole pattern. -/
def Ast.parse (pattern : String) : Except SyntaxError Ast := do
  let chars := pattern.toList
  let (progress, after) ← readBranches (chars.length + 1) ⟨[], [], 0, [], false⟩ chars
  if !after.isEmpty then .error .groupUnopened
  else
    let ast := progress.ast
    if nestingLimit < ast.depth then .error .nestingTooDeep else return ast

end Fingerprint.Regex
