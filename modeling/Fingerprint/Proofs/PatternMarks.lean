import Fingerprint.Regex.Parser

/-!
What the next characters of a pattern begin.

The readers of branches, groups and classes decide by the next one or two characters what to read.
Here the decision stands apart from the reading, and the reading apart from its recursion, so that a
fact about a reader is proved for each kind of mark and not for each character.
-/

set_option autoImplicit false

namespace Fingerprint.Regex

/-- The leading characters that are kept, and what is behind them. -/
def spaced (verbose : Bool) (keep : Char → Bool) (chars : List Char) : List Char × List Char :=
  takeSpaced verbose keep chars.length chars

/-! ### Escapes -/

/-- The brace that closes a hexadecimal number. -/
def readHexClose (verbose : Bool) (digits : List Char) :
    List Char → Except SyntaxError (Literal × List Char)
  | [] => .error .escapeUnexpectedEnd
  | c :: after =>
    if c = '}' then
      if digits.isEmpty then .error .escapeHexEmpty
      else match charOfCode? (hexValue digits) with
        | some c => .ok (⟨c, false⟩, skipSpace verbose after)
        | none => .error .escapeHexInvalid
    else .error .escapeHexInvalidDigit

/-- A number of hexadecimal digits without braces. -/
def readHexFixed (verbose : Bool) (letter : Char) (start : List Char) :
    Except SyntaxError (Literal × List Char) := do
  let count := if letter = 'x' then 2 else if letter = 'u' then 4 else 8
  let (digits, after) ← readHexDigits verbose count [] start
  match charOfCode? (hexValue digits) with
  | some c => return (⟨c, letter = 'x'⟩, after)
  | none => .error .escapeHexInvalid

/-- What stands behind the letter of a hexadecimal escape. -/
def readHexFrom (verbose : Bool) (letter : Char) :
    List Char → Except SyntaxError (Literal × List Char)
  | [] => .error .escapeUnexpectedEnd
  | c :: rest =>
    if c = '{' then
      let read := spaced verbose isHexDigit (skipSpace verbose rest)
      readHexClose verbose read.1 read.2
    else readHexFixed verbose letter (c :: rest)

theorem readHex_eq (verbose : Bool) (letter : Char) (chars : List Char) :
    readHex verbose letter chars = readHexFrom verbose letter (bump verbose chars) := by
  rw [readHex]
  generalize bump verbose chars = start
  split
  next => rfl
  next rest =>
    rw [readHexFrom, if_pos rfl]
    dsimp only
    rw [← spaced]
    generalize spaced verbose isHexDigit (skipSpace verbose rest) = read
    obtain ⟨digits, after⟩ := read
    split
    next none =>
      obtain rfl : after = [] := none
      rfl
    next after' close =>
      obtain rfl : after = '}' :: after' := close
      rfl
    next nonempty other =>
      obtain _ | ⟨c, after⟩ := after
      · exact absurd rfl nonempty
      · rw [readHexClose, if_neg fun (brace : c = '}') => other after (brace ▸ rfl)]
  next nonempty other =>
    obtain _ | ⟨c, rest⟩ := start
    · exact absurd rfl nonempty
    · rw [readHexFrom, if_neg fun (brace : c = '{') => other rest (brace ▸ rfl)]
      rfl

/-- The brace that closes the text of a property. -/
def readPropertyClose (negated : Bool) :
    List Char × List Char → Except SyntaxError ((PropertyQuery × Bool) × List Char)
  | (_, []) => .error .escapeUnexpectedEnd
  | (text, _ :: after) =>
    .ok (((propertyOfText text).1, negated != (propertyOfText text).2), after)

/-- What stands behind the letter of a property. -/
def readPropertyFrom (verbose negated : Bool) :
    List Char → Except SyntaxError ((PropertyQuery × Bool) × List Char)
  | [] => .error .escapeUnexpectedEnd
  | c :: rest =>
    if c = '{' then readPropertyClose negated (spaced verbose (· ≠ '}') (skipSpace verbose rest))
    else if c = '\\' then .error .unicodeClassInvalid
    else .ok ((.named (String.singleton c), negated), skipSpace verbose rest)

theorem readProperty_eq (verbose : Bool) (chars : List Char) :
    readProperty verbose chars =
      readPropertyFrom verbose (chars.head? = some 'P') (bump verbose chars) := by
  rw [readProperty]
  generalize bump verbose chars = start
  dsimp only
  split
  next => rfl
  next rest =>
    rw [readPropertyFrom, if_pos rfl]
    rw [← spaced]
    generalize spaced verbose (· ≠ '}') (skipSpace verbose rest) = read
    obtain ⟨text, _ | ⟨c, after⟩⟩ := read <;> rfl
  next => rfl
  next c rest brace backslash =>
    rw [readPropertyFrom, if_neg brace, if_neg backslash]

/-- Characters of the name of a boundary. -/
def isBoundaryChar (c : Char) : Bool := c.isAlpha || c = '-'

/-- The brace that closes the name of a boundary. -/
def readBoundaryClose (name : List Char) :
    List Char → Except SyntaxError (AssertionKind × List Char)
  | '}' :: after =>
    match String.ofList name with
    | "start" => .ok (.wordStart, after)
    | "end" => .ok (.wordEnd, after)
    | "start-half" => .ok (.wordStartHalf, after)
    | "end-half" => .ok (.wordEndHalf, after)
    | _ => .error .wordBoundaryUnrecognized
  | _ => .error .wordBoundaryUnclosed

/-- What stands behind the brace after `\b`, which may open a repetition as well. -/
def readBoundaryFrom (verbose : Bool) (chars : List Char) :
    List Char → Except SyntaxError (AssertionKind × List Char)
  | [] => .error .wordOrRepetitionUnexpectedEnd
  | c :: rest =>
    if isBoundaryChar c then
      let read := spaced verbose isBoundaryChar (c :: rest)
      readBoundaryClose read.1 read.2
    else .ok (.wordBoundary, chars)

theorem readBoundaryName_eq (verbose : Bool) (c : Char) (rest : List Char) :
    readBoundaryName verbose (c :: rest) =
      if c = '{' then readBoundaryFrom verbose (c :: rest) (bump verbose (c :: rest))
      else .ok (.wordBoundary, c :: rest) := by
  split
  next brace =>
    subst brace
    rw [readBoundaryName]
    generalize bump verbose ('{' :: rest) = start
    obtain _ | ⟨c, start⟩ := start
    · rfl
    rw [readBoundaryFrom]
    dsimp only
    split
    next outside =>
      have other : ¬ isBoundaryChar c := by
        rwa [Bool.not_eq_true', ← Bool.not_eq_true] at outside
      rw [if_neg other]
    next inside =>
      have letter : isBoundaryChar c := by
        rwa [Bool.not_eq_true', Bool.not_eq_false] at inside
      rw [if_pos letter]
      rfl
  next other =>
    rw [readBoundaryName]
    exact fun _ same => other (List.cons.inj same).1

/-- What the character after a backslash begins. -/
inductive EscapeMark where
  | refused (reason : SyntaxError)
  | hex
  | property
  | boundary
  | fixed (escape : Escape)

/-- What a letter begins that is neither hexadecimal nor a property. -/
def letterMark : Char → EscapeMark
  | 'd' => .fixed (.perl .digit false)
  | 'D' => .fixed (.perl .digit true)
  | 's' => .fixed (.perl .space false)
  | 'S' => .fixed (.perl .space true)
  | 'w' => .fixed (.perl .word false)
  | 'W' => .fixed (.perl .word true)
  | 'a' => .fixed (.literal ⟨'\x07', false⟩)
  | 'f' => .fixed (.literal ⟨'\x0c', false⟩)
  | 't' => .fixed (.literal ⟨'\t', false⟩)
  | 'n' => .fixed (.literal ⟨'\n', false⟩)
  | 'r' => .fixed (.literal ⟨'\r', false⟩)
  | 'v' => .fixed (.literal ⟨'\x0b', false⟩)
  | 'A' => .fixed (.assertion .startText)
  | 'z' => .fixed (.assertion .endText)
  | 'b' => .boundary
  | 'B' => .fixed (.assertion .notWordBoundary)
  | '<' => .fixed (.assertion .wordStart)
  | '>' => .fixed (.assertion .wordEnd)
  | _ => .refused .escapeUnrecognized

def escapeMark (c : Char) : EscapeMark :=
  if c.isDigit then .refused .unsupportedBackreference
  else if c = 'x' || c = 'u' || c = 'U' then .hex
  else if c = 'p' || c = 'P' then .property
  else if isEscapable c then .fixed (.literal ⟨c, false⟩)
  else letterMark c

theorem readEscape_eq (verbose : Bool) (chars : List Char) :
    readEscape verbose chars =
      match chars.drop 1 with
      | [] => .error .escapeUnexpectedEnd
      | c :: rest =>
        match escapeMark c with
        | .refused reason => .error reason
        | .hex => do
          let (symbol, after) ← readHex verbose c (c :: rest)
          return (.literal symbol, after)
        | .property => do
          let ((query, negated), after) ← readProperty verbose (c :: rest)
          return (.property query negated, after)
        | .boundary => do
          let (kind, after) ← readBoundaryName verbose rest
          return (.assertion kind, after)
        | .fixed escape => .ok (escape, rest) := by
  rw [readEscape]
  generalize chars.drop 1 = behind
  obtain _ | ⟨c, rest⟩ := behind
  · rfl
  dsimp only [escapeMark]
  split
  · rfl
  split
  · rfl
  split
  · rfl
  split
  · rfl
  split
  case h_19 =>
    have mark : letterMark c = .refused .escapeUnrecognized := by
      unfold letterMark
      split
      all_goals first
        | rfl
        | contradiction
    rw [mark]
  all_goals rfl

/-! ### Branches -/

/-- What a character begins in a branch. -/
inductive Mark where
  | close
  | group
  | bar
  | bracket
  | «repeat» (bounds : Bounds)
  | counts
  | escape
  | atom (ast : Ast)

def markOf : Char → Mark
  | ')' => .close
  | '(' => .group
  | '|' => .bar
  | '[' => .bracket
  | '?' => .repeat ⟨0, some 1⟩
  | '*' => .repeat ⟨0, none⟩
  | '+' => .repeat ⟨1, none⟩
  | '{' => .counts
  | '\\' => .escape
  | '.' => .atom .dot
  | '^' => .atom (.assertion .startLine)
  | '$' => .atom (.assertion .endLine)
  | c => .atom (.literal ⟨c, false⟩)

namespace Progress

/-- What is known where a group begins. -/
def inside (progress : Progress) : GroupKind → Progress
  | .capture index => ⟨[], [], index, progress.names, progress.verbose⟩
  | .named index name => ⟨[], [], index, name :: progress.names, progress.verbose⟩
  | .plain flags =>
    ⟨[], [], progress.captures, progress.names,
      (flags.state? .ignoreSpace).getD progress.verbose⟩

/-- What is known behind a group. -/
def afterGroup (progress : Progress) (kind : GroupKind) (inner : Progress) : Progress :=
  { progress.push (.group kind inner.ast) with captures := inner.captures, names := inner.names }

def afterFlags (progress : Progress) (flags : FlagList) : Progress :=
  { progress.push (.flags flags) with
    verbose := (flags.state? .ignoreSpace).getD progress.verbose }

def afterBar (progress : Progress) : Progress :=
  { progress with
    parts := [], branches := Ast.ofParts progress.parts.reverse :: progress.branches }

end Progress

def Escape.ast : Escape → Ast
  | .literal symbol => .literal symbol
  | .perl kind negated => .perl kind negated
  | .property query negated => .property query negated
  | .assertion kind => .assertion kind

section

variable (next : Progress → List Char → Except SyntaxError (Progress × List Char))
  (progress : Progress)

/-- The parenthesis that closes a group. -/
def readGroupClose (kind : GroupKind) (inner : Progress) :
    List Char → Except SyntaxError (Progress × List Char)
  | ')' :: after => next (progress.afterGroup kind inner) after
  | _ => .error .groupUnclosed

/-- Reads on behind what opens a group. -/
def readGroup : GroupOpen × List Char → Except SyntaxError (Progress × List Char)
  | (.flags flags, after) => next (progress.afterFlags flags) after
  | (.group kind, after) => do
    let (inner, after) ← next (progress.inside kind) after
    readGroupClose next progress kind inner after

/-- Reads on behind the bounds of a repetition. -/
def readRepeated (body : Ast) (parts : List Ast) (bounds : Bounds) (after : List Char) :
    Except SyntaxError (Progress × List Char) :=
  next { progress with parts := .repetition bounds (readLazy after).1 body :: parts }
    (readLazy after).2

/-- Reads on from a character, with `next` for what comes after. -/
def readMarked (c : Char) (rest : List Char) : Except SyntaxError (Progress × List Char) :=
  match markOf c with
  | .close => .ok (progress, c :: rest)
  | .group => do
    readGroup next progress
      (← readGroupOpen progress.verbose progress.captures progress.names (c :: rest))
  | .bar => next progress.afterBar rest
  | .bracket => do
    let (ast, after) ← readClass progress.verbose (c :: rest)
    next (progress.push ast) after
  | .repeat bounds => do
    let (body, parts) ← popRepeatable progress.parts
    readRepeated next progress body parts bounds rest
  | .counts => do
    let (body, parts) ← popRepeatable progress.parts
    let (bounds, after) ← readCounts progress.verbose (c :: rest)
    if bounds.most.any (· < bounds.least) then .error .repetitionCountInvalid
    else readRepeated next progress body parts bounds (skipSpace progress.verbose after)
  | .escape => do
    let (escape, after) ← readEscape progress.verbose (c :: rest)
    next (progress.push escape.ast) after
  | .atom ast => next (progress.push ast) rest

end

theorem readBranches_succ (fuel : Nat) (progress : Progress) (chars : List Char) :
    readBranches (fuel + 1) progress chars =
      match skipSpace progress.verbose chars with
      | [] => .ok (progress, [])
      | c :: rest => readMarked (readBranches fuel) progress c rest := by
  rw [readBranches]
  generalize skipSpace progress.verbose chars = chars
  cases chars with
  | nil => rfl
  | cons c rest =>
    dsimp only
    split
    case h_1 same => cases same
    case h_3 same =>
      cases same
      refine bind_congr fun opened => ?_
      obtain ⟨_ | kind, after⟩ := opened
      · rfl
      · cases kind <;> rfl
    case h_14 ordinary same =>
      cases same
      have mark : markOf c = .atom (.literal ⟨c, false⟩) := by
        unfold markOf
        split
        all_goals first
          | rfl
          | contradiction
      rw [readMarked, mark]
    all_goals
      rename_i same
      cases same
      rfl

/-! ### Groups -/

/-- What stands behind the question mark of a group. -/
inductive GroupMark where
  | lookAround
  | name (rest : List Char)
  | flags

/-- What stands behind an angle bracket. -/
def angleMark : List Char → GroupMark
  | '=' :: _ | '!' :: _ => .lookAround
  | rest => .name rest

def groupMark : List Char → GroupMark
  | '=' :: _ | '!' :: _ => .lookAround
  | 'P' :: '<' :: rest => .name rest
  | '<' :: rest => angleMark rest
  | _ => .flags

/-- Reads the name of a group. -/
def readNamed (captures : Nat) (names : List String) (chars : List Char) :
    Except SyntaxError (GroupOpen × List Char) := do
  let (name, after) ← readName [] chars
  if names.contains name then .error .groupNameDuplicate
  else return (.group (.named (captures + 1) name), after)

/-- What ends the flags of a group. -/
def readFlagsClose (flags : FlagList) : List Char → Except SyntaxError (GroupOpen × List Char)
  | ')' :: after =>
    if flags.set.isEmpty && flags.clear.isEmpty then .error .repetitionMissing
    else .ok (.flags flags, after)
  | after => .ok (.group (.plain flags), after.drop 1)

/-- Reads the flags of a group. -/
def readFlagged (chars : List Char) : Except SyntaxError (GroupOpen × List Char) :=
  if chars.isEmpty then .error .groupUnclosed
  else do
    let (flags, after) ← readFlags ⟨[], []⟩ false false chars
    readFlagsClose flags after

/-- What stands behind the parenthesis of a group. -/
def readGroupFrom (captures : Nat) (names : List String) :
    List Char → Except SyntaxError (GroupOpen × List Char)
  | '?' :: rest =>
    match groupMark rest with
    | .lookAround => .error .unsupportedLookAround
    | .name rest => readNamed captures names rest
    | .flags => readFlagged rest
  | start => .ok (.group (.capture (captures + 1)), start)

theorem readGroupOpen_eq (verbose : Bool) (captures : Nat) (names : List String)
    (chars : List Char) :
    readGroupOpen verbose captures names chars =
      readGroupFrom captures names (bump verbose chars) := by
  rw [readGroupOpen]
  generalize bump verbose chars = start
  split
  case h_6 rest _ _ =>
    have mark : groupMark ('<' :: rest) = .name rest := by
      rw [groupMark, angleMark]
      · assumption
      · assumption
    rw [readGroupFrom, mark]
    rfl
  case h_7 rest _ _ _ _ _ _ =>
    have mark : groupMark rest = .flags := by
      unfold groupMark
      split
      all_goals first
        | rfl
        | simp_all
    rw [readGroupFrom, mark]
    dsimp only [readFlagged]
    congr 1
    refine bind_congr fun read => ?_
    obtain ⟨flags, after⟩ := read
    dsimp only
    split
    next => rfl
    next other => exact (readFlagsClose.eq_2 flags _ other).symm
  case h_8 other => exact (readGroupFrom.eq_2 captures names start other).symm
  all_goals rfl

/-! ### Counts -/

def decimalOf (digits : List Char) : Except SyntaxError Nat :=
  if digits.isEmpty then .error .decimalEmpty
  else if decimalValue digits < 1 <<< 32 then .ok (decimalValue digits)
  else .error .decimalInvalid

/-- What stands behind the spaces before a number. -/
def readDecimalFrom (verbose : Bool) (start : List Char) : Except SyntaxError Nat × List Char :=
  let digits := spaced verbose Char.isDigit start
  let spaces := spaced verbose Text.isBlank digits.2
  (decimalOf digits.1, spaces.2)

theorem readDecimal_eq (verbose : Bool) (chars : List Char) :
    readDecimal verbose chars = readDecimalFrom verbose (chars.dropWhile Text.isBlank) := by
  rw [readDecimal, readDecimalFrom]
  dsimp only
  rw [← spaced, ← spaced, decimalOf]
  split
  · rfl
  · split <;> rfl

/-- A missing count is told apart from a missing number. -/
def countOf : Except SyntaxError Nat → Except SyntaxError Nat
  | .error .decimalEmpty => .error .repetitionCountEmpty
  | other => other

/-- The brace that closes the counts. -/
def readCountsClose (bounds : Bounds) : List Char → Except SyntaxError (Bounds × List Char)
  | '}' :: after => .ok (bounds, after)
  | _ => .error .repetitionCountUnclosed

/-- The second count and the closing brace. -/
def readMost (verbose : Bool) (least : Nat) (start : List Char) :
    Except SyntaxError (Bounds × List Char) := do
  let most ← countOf (readDecimal verbose start).1
  readCountsClose ⟨least, some most⟩ (readDecimal verbose start).2

/-- What stands behind the comma of counts. -/
def readCountsComma (verbose : Bool) (first : Except SyntaxError Nat) :
    List Char → Except SyntaxError (Bounds × List Char)
  | [] => .error .repetitionCountUnclosed
  | c :: rest => do
    let least ← countOf first
    if c = '}' then readCountsClose ⟨least, none⟩ (c :: rest)
    else readMost verbose least (c :: rest)

/-- What stands behind the first count. -/
def readCountsRest (verbose : Bool) :
    Except SyntaxError Nat × List Char → Except SyntaxError (Bounds × List Char)
  | (_, []) => .error .repetitionCountUnclosed
  | (first, c :: after) =>
    if c = ',' then readCountsComma verbose first (bump verbose (c :: after))
    else do
      let exact ← countOf first
      readCountsClose ⟨exact, some exact⟩ (c :: after)

/-- What stands behind the brace of counts. -/
def readCountsFrom (verbose : Bool) : List Char → Except SyntaxError (Bounds × List Char)
  | [] => .error .repetitionCountUnclosed
  | c :: rest => readCountsRest verbose (readDecimal verbose (c :: rest))

theorem readCounts_eq (verbose : Bool) (chars : List Char) :
    readCounts verbose chars = readCountsFrom verbose (bump verbose chars) := by
  rw [readCounts]
  generalize bump verbose chars = start
  obtain _ | ⟨c, rest⟩ := start
  · rfl
  rw [readCountsFrom]
  dsimp only
  generalize readDecimal verbose (c :: rest) = read
  obtain ⟨first, after⟩ := read
  dsimp only
  split
  next => rfl
  next after =>
    rw [readCountsRest, if_pos rfl]
    generalize bump verbose (',' :: after) = start
    split
    next => rfl
    next => rfl
    next nonempty other =>
      obtain _ | ⟨d, start⟩ := start
      · exact absurd rfl nonempty
      · have brace : d ≠ '}' := fun same => other start (same ▸ rfl)
        simp only [readCountsComma, if_neg brace]
        rfl
  next nonempty other =>
    obtain _ | ⟨d, after⟩ := after
    · exact absurd rfl nonempty
    · have comma : d ≠ ',' := fun same => other after (same ▸ rfl)
      rw [readCountsRest, if_neg comma]
      rfl

/-! ### Bracketed classes -/

/-- What closes a class `[:name:]`. -/
def readAsciiClose (negated : Bool) (name : List Char) :
    List Char → Option (ClassSet × List Char)
  | ':' :: ']' :: after =>
    (asciiClassNamed? (String.ofList name)).map fun kind => (.ascii kind negated, after)
  | _ => none

/-- The name of a class `[:name:]`, and what closes it. -/
def readAsciiName (negated : Bool) (start : List Char) : Option (ClassSet × List Char) :=
  readAsciiClose negated (start.takeWhile (· ≠ ':')) (start.dropWhile (· ≠ ':'))

/-- What stands behind the bracket and the colon of a class `[:name:]`. -/
def readAsciiFrom : List Char → Option (ClassSet × List Char)
  | [] => none
  | c :: rest => if c = '^' then readAsciiName true rest else readAsciiName false (c :: rest)

theorem readAsciiClass?_eq (c d : Char) (rest : List Char) :
    readAsciiClass? (c :: d :: rest) = if c = '[' ∧ d = ':' then readAsciiFrom rest else none := by
  split
  next marks =>
    obtain ⟨rfl, rfl⟩ := marks
    obtain _ | ⟨e, rest⟩ := rest
    · rfl
    by_cases caret : e = '^'
    · subst caret
      rfl
    · have other : some e ≠ some '^' := fun same => caret (Option.some.inj same)
      simp only [readAsciiClass?, readAsciiFrom, List.head?_cons, other, caret, decide_false,
        if_false]
      rfl
  next other =>
    rw [readAsciiClass?]
    rintro rest' same
    cases same
    exact other ⟨rfl, rfl⟩

/-- The last character of a range. -/
def readRangeEnd (verbose : Bool) (first : Escape) (start : List Char) :
    Except SyntaxError (ClassSet × List Char) :=
  if start.isEmpty then .error .classUnclosed
  else do
    let (last, after) ← readClassElement verbose start
    let first ← first.toLiteral
    let last ← last.toLiteral
    if first.char ≤ last.char then return (.range first last, after)
    else .error .classRangeInvalid

/-- What stands behind the first element of what may be a range. -/
def readRangeFrom (verbose : Bool) (first : Escape) :
    List Char → Except SyntaxError (ClassSet × List Char)
  | [] => .error .classUnclosed
  | c :: rest =>
    let next := peekSpace verbose (c :: rest)
    if c ≠ '-' || next = some ']' || next = some '-' then do
      return (← first.toClassSet, c :: rest)
    else readRangeEnd verbose first (bump verbose (c :: rest))

theorem readClassRange_eq (verbose : Bool) (chars : List Char) :
    readClassRange verbose chars =
      (readClassElement verbose chars >>= fun (first, after) =>
        readRangeFrom verbose first (skipSpace verbose after)) := by
  refine bind_congr fun read => ?_
  dsimp only
  generalize skipSpace verbose read.2 = after
  cases after <;> rfl

/-- The dashes at the beginning of a class, with fuel for all characters. -/
def leadingDashes (verbose : Bool) (chars : List Char) : List ClassSet × List Char :=
  readLeadingDashes verbose chars.length chars

/-- The characters at the beginning of a class that stand for themselves. -/
def readClassBegun (verbose negated : Bool) :
    List ClassSet × List Char → Except SyntaxError ((Bool × List ClassSet) × List Char)
  | (_, []) => .error .classUnclosed
  | (dashes, c :: rest) =>
    if dashes.isEmpty && c = ']' then
      let after := bump verbose (c :: rest)
      if after.isEmpty then .error .classUnclosed
      else .ok ((negated, [.literal ⟨']', false⟩]), after)
    else .ok ((negated, dashes.reverse), c :: rest)

/-- What stands behind the bracket that opens a class. -/
def readClassFrom (verbose : Bool) :
    List Char → Except SyntaxError ((Bool × List ClassSet) × List Char)
  | [] => .error .classUnclosed
  | c :: rest =>
    if c = '^' then readClassBegun verbose true (leadingDashes verbose (bump verbose (c :: rest)))
    else readClassBegun verbose false (leadingDashes verbose (c :: rest))

theorem readClassBegun_eq (verbose negated : Bool) (dashes : List ClassSet) (start : List Char) :
    readClassBegun verbose negated (dashes, start) =
      match dashes, start with
      | _, [] => .error .classUnclosed
      | [], ']' :: _ =>
        let after := bump verbose start
        if after.isEmpty then .error .classUnclosed
        else .ok ((negated, [.literal ⟨']', false⟩]), after)
      | dashes, start => .ok ((negated, dashes.reverse), start) := by
  split
  next => rfl
  next => rfl
  next nonempty other =>
    obtain _ | ⟨c, rest⟩ := start
    · exact absurd rfl nonempty
    · rw [readClassBegun, if_neg]
      intro opens
      obtain ⟨none, bracket⟩ := Bool.and_eq_true_iff.mp opens
      exact other rest (List.isEmpty_iff.mp none) (by rw [of_decide_eq_true bracket])

theorem readClassOpen_eq (verbose : Bool) (chars : List Char) :
    readClassOpen verbose chars = readClassFrom verbose (bump verbose chars) := by
  rw [readClassOpen]
  generalize bump verbose chars = start
  obtain _ | ⟨c, rest⟩ := start
  · rfl
  · refine Eq.trans (readClassBegun_eq _ _ _ _).symm ?_
    by_cases caret : c = '^'
    · subst caret
      rfl
    · have other : some c ≠ some '^' := fun same => caret (Option.some.inj same)
      simp only [readClassFrom, List.head?_cons, other, caret, decide_false, if_false]
      rfl

/-- What the next characters begin in a bracketed class. -/
inductive ClassMark where
  | «open»
  | close (rest : List Char)
  | operator (operator : SetOperator) (rest : List Char)
  | item

def classMark : List Char → ClassMark
  | '[' :: _ => .open
  | ']' :: rest => .close rest
  | '&' :: '&' :: rest => .operator .intersection rest
  | '-' :: '-' :: rest => .operator .difference rest
  | '~' :: '~' :: rest => .operator .symmetricDifference rest
  | _ => .item

section

variable (verbose : Bool)
  (next : OpenClass → List OpenClass → List Char →
    Except SyntaxError ((Bool × ClassSet) × List Char))
  (current : OpenClass) (outer : List OpenClass)

/-- Reads on in a class, with `next` for what comes after. -/
def readClassMarked (chars : List Char) : Except SyntaxError ((Bool × ClassSet) × List Char) :=
  match classMark chars with
  | .open =>
    match readAsciiClass? chars with
    | some (item, after) => next (current.push item) outer after
    | none => do
      let ((negated, items), after) ← readClassOpen verbose chars
      next ⟨negated, none, items⟩ (current :: outer) after
  | .close rest =>
    match outer with
    | [] => .ok ((current.negated, current.contents), rest)
    | parent :: outer =>
      next (parent.push (.bracketed current.negated current.contents)) outer rest
  | .operator operator rest => next (current.operate operator) outer rest
  | .item => do
    let (item, after) ← readClassRange verbose chars
    next (current.push item) outer after

end

theorem readClassItems_succ (verbose : Bool) (fuel : Nat) (current : OpenClass)
    (outer : List OpenClass) (chars : List Char) :
    readClassItems verbose (fuel + 1) current outer chars =
      match skipSpace verbose chars with
      | [] => .error .classUnclosed
      | c :: rest =>
        readClassMarked verbose (readClassItems verbose fuel) current outer (c :: rest) := by
  rw [readClassItems]
  generalize skipSpace verbose chars = start
  cases start with
  | nil => rfl
  | cons c rest =>
    dsimp only
    split
    case h_1 same => cases same
    case h_7 =>
      have mark : classMark (c :: rest) = .item := by
        unfold classMark
        split
        all_goals first
          | rfl
          | simp_all
      rw [readClassMarked, mark]
    all_goals
      rename_i same
      cases same
      rfl

end Fingerprint.Regex
