import Fingerprint.Regex.Syntax
import Fingerprint.Unicode.Property
import Fingerprint.Unicode.CaseFold

/-!
Regular expressions by meaning: flags are resolved, classes are sets of code points, and a
repetition that can only match the empty text applies at most once.

Expressions are built in a simple form: sequences and choices do not hold others of their kind
directly, neighbouring characters are one literal, a choice between single characters or between
classes is a class, and what all branches of a choice begin with stands in front of it.
-/

namespace Fingerprint.Regex

open Unicode (CodePoints)

/-- An assertion with the flags that it depends on resolved. -/
inductive Assertion where
  | textStart
  | textEnd
  | lineStart
  | lineEnd
  | crlfLineStart
  | crlfLineEnd
  | wordBoundary (unicode : Bool)
  | notWordBoundary (unicode : Bool)
  | wordStart (unicode : Bool)
  | wordEnd (unicode : Bool)
  | wordStartHalf (unicode : Bool)
  | wordEndHalf (unicode : Bool)
deriving DecidableEq, Repr, Inhabited

/-- A regular expression. -/
inductive Expr where
  | empty
  /-- The characters, of which there is at least one, one after another. -/
  | literal (text : List Char)
  | chars (set : CodePoints)
  | assertion (kind : Assertion)
  | repeat (bounds : Bounds) (greedy : Bool) (body : Expr)
  | group (index : Nat) (body : Expr)
  | seq (parts : List Expr)
  | choice (branches : List Expr)
deriving Repr, Inhabited

mutual

/-- Whether the expression matches the empty text only. -/
def Expr.onlyEmpty : Expr → Bool
  | .empty => true
  | .literal _ | .chars _ => false
  | .assertion _ => true
  | .repeat bounds _ body => bounds.most.isSome && body.onlyEmpty
  | .group _ body => body.onlyEmpty
  | .seq parts => Expr.allOnlyEmpty parts
  | .choice branches => Expr.allOnlyEmpty branches

def Expr.allOnlyEmpty : List Expr → Bool
  | [] => true
  | part :: rest => part.onlyEmpty && Expr.allOnlyEmpty rest

end

mutual

/-- Whether the expression may match the empty text. -/
def Expr.nullable : Expr → Bool
  | .empty => true
  | .literal _ | .chars _ => false
  | .assertion _ => true
  | .repeat bounds _ body => bounds.least == 0 || body.nullable
  | .group _ body => body.nullable
  | .seq parts => Expr.allNullable parts
  | .choice branches => Expr.anyNullable branches

def Expr.allNullable : List Expr → Bool
  | [] => true
  | part :: rest => part.nullable && Expr.allNullable rest

def Expr.anyNullable : List Expr → Bool
  | [] => false
  | branch :: rest => branch.nullable || Expr.anyNullable rest

end

mutual

/-- The largest number of a capture group, or 0 if there is none. -/
def Expr.groupCount : Expr → Nat
  | .empty | .literal _ | .chars _ | .assertion _ => 0
  | .repeat _ _ body => body.groupCount
  | .group index body => max index body.groupCount
  | .seq parts => Expr.groupCountOfList parts
  | .choice branches => Expr.groupCountOfList branches

def Expr.groupCountOfList : List Expr → Nat
  | [] => 0
  | part :: rest => max part.groupCount (Expr.groupCountOfList rest)

end

mutual

/-- Whether two expressions are built in the same way. -/
def Expr.same : Expr → Expr → Bool
  | .empty, .empty => true
  | .literal left, .literal right => left = right
  | .chars left, .chars right => left = right
  | .assertion left, .assertion right => left = right
  | .repeat bounds greedy body, .repeat bounds' greedy' body' =>
    bounds = bounds' && greedy == greedy' && body.same body'
  | .group index body, .group index' body' => index == index' && body.same body'
  | .seq parts, .seq parts' => Expr.sameList parts parts'
  | .choice branches, .choice branches' => Expr.sameList branches branches'
  | _, _ => false

def Expr.sameList : List Expr → List Expr → Bool
  | [], [] => true
  | part :: rest, part' :: rest' => part.same part' && Expr.sameList rest rest'
  | _, _ => false

end

/-- A character of a set as an expression. -/
def Expr.ofSet (set : CodePoints) : Expr :=
  match set.ranges with
  | [range] =>
    if range.first = range.last then .literal [Char.ofNat range.first] else .chars set
  | _ => .chars set

/-- The parts that a sequence takes an expression apart into. -/
def Expr.parts : Expr → List Expr
  | .empty => []
  | .seq parts => parts
  | expr => [expr]

/-- Joins literals next to each other. -/
def Expr.joinLiterals : List Expr → List Expr
  | [] => []
  | .literal text :: rest =>
    match Expr.joinLiterals rest with
    | .literal text' :: rest => .literal (text ++ text') :: rest
    | rest => .literal text :: rest
  | part :: rest => part :: Expr.joinLiterals rest

/-- Expressions one after another. -/
def Expr.inSequence (exprs : List Expr) : Expr :=
  match Expr.joinLiterals (exprs.flatMap Expr.parts) with
  | [] => .empty
  | [part] => part
  | parts => .seq parts

/-- The set of a literal of one character. -/
def Expr.single? : Expr → Option CodePoints
  | .literal [c] => some (.single c.toNat)
  | _ => none

def Expr.class? : Expr → Option CodePoints
  | .chars set => some set
  | _ => none

/-- The branches that a choice takes an expression apart into. -/
def Expr.branches : Expr → List Expr
  | .choice branches => branches
  | expr => [expr]

/-- The number of parts that all sequences begin with. -/
def Expr.sharedLength : List (List Expr) → Nat
  | [] => 0
  | first :: rest =>
    rest.foldl (fun shared parts =>
      (((first.take shared).zip parts).takeWhile fun (left, right) => left.same right).length)
      first.length

/-- A choice between expressions, the earlier ones first. The bound limits how often a common
beginning is looked for within what follows one. -/
def Expr.oneOf : Nat → List Expr → Expr
  | 0, exprs => .choice exprs
  | bound + 1, exprs =>
    match exprs.flatMap Expr.branches with
    | [branch] => branch
    | branches =>
      match (branches.mapM Expr.single?).or (branches.mapM Expr.class?) with
      | some sets => .ofSet (CodePoints.ofRanges (sets.flatMap (·.ranges)))
      | none =>
        let sequences := branches.filterMap fun branch =>
          match branch with
          | .seq parts => some parts
          | _ => none
        let shared :=
          if sequences.length = branches.length then Expr.sharedLength sequences else 0
        match shared, sequences with
        | 0, _ | _, [] => .choice branches
        | shared, first :: _ =>
          let suffixes := sequences.map fun parts => Expr.inSequence (parts.drop shared)
          .inSequence (first.take shared ++ [Expr.oneOf bound suffixes])

/-- A repetition in its simplest form. None at all is the empty expression, whatever is repeated. -/
def Expr.repeated (bounds : Bounds) (greedy : Bool) (body : Expr) : Expr :=
  let bounds : Bounds :=
    if body.onlyEmpty then ⟨min bounds.least 1, some ((bounds.most.map (min · 1)).getD 1)⟩
    else bounds
  if bounds = ⟨0, some 0⟩ then .empty
  else if bounds = ⟨1, some 1⟩ then body
  else .repeat bounds greedy body

/-- The flags in force at a place of the pattern. -/
structure Flags where
  caseInsensitive : Bool
  multiLine : Bool
  dotMatchesNewLine : Bool
  swapGreed : Bool
  unicode : Bool
  crlf : Bool
deriving DecidableEq, Repr, Inhabited

namespace Flags

/-- The flags at the beginning of a pattern. -/
def initial (caseInsensitive : Bool) : Flags :=
  ⟨caseInsensitive, false, false, false, true, false⟩

def apply (flags : Flags) (list : FlagList) : Flags :=
  { caseInsensitive := (list.state? .caseInsensitive).getD flags.caseInsensitive
    multiLine := (list.state? .multiLine).getD flags.multiLine
    dotMatchesNewLine := (list.state? .dotMatchesNewLine).getD flags.dotMatchesNewLine
    swapGreed := (list.state? .swapGreed).getD flags.swapGreed
    unicode := (list.state? .unicode).getD flags.unicode
    crlf := (list.state? .crlf).getD flags.crlf }

/-- The set closed under case if the flags ask for it. Without Unicode only ASCII letters have
two cases. -/
def closeCase (flags : Flags) (set : CodePoints) : CodePoints :=
  if !flags.caseInsensitive then set
  else if flags.unicode then set.closeCase
  else set.closeCaseAscii

end Flags

def AsciiClass.codePoints : AsciiClass → CodePoints
  | .alnum => .ofText "30-39 41-5a 61-7a"
  | .alpha => .ofText "41-5a 61-7a"
  | .ascii => .ofText "0-7f"
  | .blank => .ofText "9 20"
  | .cntrl => .ofText "0-1f 7f"
  | .digit => .ofText "30-39"
  | .graph => .ofText "21-7e"
  | .lower => .ofText "61-7a"
  | .print => .ofText "20-7e"
  | .punct => .ofText "21-2f 3a-40 5b-60 7b-7e"
  | .space => .ofText "9-d 20"
  | .upper => .ofText "41-5a"
  | .word => .ofText "30-39 41-5a 5f 61-7a"
  | .xdigit => .ofText "30-39 41-46 61-66"

def PerlClass.codePoints (unicode : Bool) : PerlClass → CodePoints
  | .digit => if unicode then Unicode.digits else AsciiClass.digit.codePoints
  | .space => if unicode then Unicode.spaces else AsciiClass.space.codePoints
  | .word => if unicode then Unicode.wordCharacters else AsciiClass.word.codePoints

def PropertyQuery.codePoints? : PropertyQuery → Option CodePoints
  | .named name => Unicode.classNamed? name
  | .valued name value => Unicode.classWithValue? name value

/-- The set closed under case as the flags ask, and negated if `negated`. Without Unicode a set
ranges over bytes, and one with bytes that are not ASCII could match a part of a character. -/
def Flags.finish (flags : Flags) (negated : Bool) (set : CodePoints) :
    Except SyntaxError CodePoints :=
  let set := flags.closeCase set
  if flags.unicode then .ok (if negated then set.complement else set)
  else
    let set := if negated then set.complementWithin 0xFF else set
    if set.allBelow 0x80 then .ok set else .error .invalidUtf8

/-- The number of a character in a class. -/
def Flags.classCode (flags : Flags) (literal : Literal) : Except SyntaxError Nat :=
  let code := literal.char.toNat
  if flags.unicode || code < 0x80 then .ok code
  else if literal.asByte then .error .invalidUtf8
  else .error .unicodeNotAllowed

def Flags.perl (flags : Flags) (kind : PerlClass) (negated : Bool) :
    Except SyntaxError CodePoints :=
  let set := kind.codePoints flags.unicode
  if flags.unicode then .ok (if negated then set.complement else set)
  else if negated then .error .invalidUtf8
  else .ok set

def Flags.property (flags : Flags) (query : PropertyQuery) (negated : Bool) :
    Except SyntaxError CodePoints :=
  if !flags.unicode then .error .unicodeNotAllowed
  else match query.codePoints? with
    | none => .error .propertyNotFound
    | some set => flags.finish negated set

def SetOperator.apply : SetOperator → CodePoints → CodePoints → CodePoints
  | .intersection => CodePoints.inter
  | .difference => CodePoints.diff
  | .symmetricDifference => CodePoints.symmDiff

mutual

/-- The set that the contents of a class denote. -/
def ClassSet.codePoints (flags : Flags) : ClassSet → Except SyntaxError CodePoints
  | .literal symbol => do return CodePoints.single (← flags.classCode symbol)
  | .range first last => do
    return CodePoints.range (← flags.classCode first) (← flags.classCode last)
  | .ascii kind negated => flags.finish negated kind.codePoints
  | .perl kind negated => flags.perl kind negated
  | .property query negated => flags.property query negated
  | .bracketed negated contents => do flags.finish negated (← contents.codePoints flags)
  | .union items => do return CodePoints.ofRanges (← ClassSet.rangesOfList flags items)
  | .operation operator left right => do
    let left ← left.codePoints flags
    let right ← right.codePoints flags
    return operator.apply (flags.closeCase left) (flags.closeCase right)

def ClassSet.rangesOfList (flags : Flags) : List ClassSet → Except SyntaxError (List Unicode.Range)
  | [] => .ok []
  | item :: rest => do
    let set ← item.codePoints flags
    return set.ranges ++ (← ClassSet.rangesOfList flags rest)

end

/-- A character as an expression. -/
def Flags.literal (flags : Flags) (literal : Literal) : Except SyntaxError Expr :=
  if !flags.unicode && literal.asByte && 0x80 ≤ literal.char.toNat then .error .invalidUtf8
  else .ok (.ofSet (flags.closeCase (CodePoints.single literal.char.toNat)))

/-- All characters but line breaks, or all if the flags say so. -/
def Flags.dot (flags : Flags) : Except SyntaxError Expr :=
  if !flags.unicode then .error .invalidUtf8
  else if flags.dotMatchesNewLine then .ok (.chars CodePoints.all)
  else if flags.crlf then .ok (.chars (CodePoints.ofText "a d").complement)
  else .ok (.chars (CodePoints.single 0xA).complement)

def Flags.assertion (flags : Flags) : AssertionKind → Assertion
  | .startLine =>
    if !flags.multiLine then .textStart else if flags.crlf then .crlfLineStart else .lineStart
  | .endLine =>
    if !flags.multiLine then .textEnd else if flags.crlf then .crlfLineEnd else .lineEnd
  | .startText => .textStart
  | .endText => .textEnd
  | .wordBoundary => .wordBoundary flags.unicode
  | .notWordBoundary => .notWordBoundary flags.unicode
  | .wordStart => .wordStart flags.unicode
  | .wordEnd => .wordEnd flags.unicode
  | .wordStartHalf => .wordStartHalf flags.unicode
  | .wordEndHalf => .wordEndHalf flags.unicode

mutual

/-- The meaning of a pattern, and the flags in force after it. Flags set inside a group end with
the group. -/
def Ast.expr (flags : Flags) : Ast → Except SyntaxError (Expr × Flags)
  | .empty => .ok (.empty, flags)
  | .flags list => .ok (.empty, flags.apply list)
  | .literal symbol => do return (← flags.literal symbol, flags)
  | .dot => do return (← flags.dot, flags)
  | .assertion kind => .ok (.assertion (flags.assertion kind), flags)
  | .perl kind negated => do return (.ofSet (← flags.perl kind negated), flags)
  | .property query negated => do return (.ofSet (← flags.property query negated), flags)
  | .bracketed negated contents => do
    return (.ofSet (← flags.finish negated (← contents.codePoints flags)), flags)
  | .repetition bounds greedy body => do
    let (body, flags) ← body.expr flags
    return (Expr.repeated bounds (greedy != flags.swapGreed) body, flags)
  | .group kind body => do
    match kind with
    | .capture index | .named index _ =>
      let (body, _) ← body.expr flags
      return (.group index body, flags)
    | .plain list =>
      let (body, _) ← body.expr (flags.apply list)
      return (body, flags)
  | .alternation branches => do
    let (branches, flags) ← Ast.exprs flags branches
    return (.oneOf nestingLimit branches, flags)
  | .concat parts => do
    let (parts, flags) ← Ast.exprs flags parts
    return (.inSequence parts, flags)

def Ast.exprs (flags : Flags) : List Ast → Except SyntaxError (List Expr × Flags)
  | [] => .ok ([], flags)
  | part :: rest => do
    let (expr, flags) ← part.expr flags
    let (exprs, flags) ← Ast.exprs flags rest
    return (expr :: exprs, flags)

end

end Fingerprint.Regex
