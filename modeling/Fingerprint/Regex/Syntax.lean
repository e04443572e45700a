/-!
Regular expressions as they are written: the tree of a pattern, and the ways a pattern can be
malformed.
-/

namespace Fingerprint.Regex

/-- Why a pattern denotes no regular expression. -/
inductive SyntaxError where
  | classEscapeInvalid
  | classRangeInvalid
  | classRangeLiteral
  | classUnclosed
  | decimalEmpty
  | decimalInvalid
  | escapeHexEmpty
  | escapeHexInvalid
  | escapeHexInvalidDigit
  | escapeUnexpectedEnd
  | escapeUnrecognized
  | flagDanglingNegation
  | flagDuplicate
  | flagRepeatedNegation
  | flagUnexpectedEnd
  | flagUnrecognized
  | groupNameDuplicate
  | groupNameEmpty
  | groupNameInvalid
  | groupNameUnexpectedEnd
  | groupUnclosed
  | groupUnopened
  | nestingTooDeep
  | repetitionCountInvalid
  | repetitionCountEmpty
  | repetitionCountUnclosed
  | repetitionMissing
  | wordBoundaryUnclosed
  | wordBoundaryUnrecognized
  | wordOrRepetitionUnexpectedEnd
  | unicodeClassInvalid
  | unsupportedBackreference
  | unsupportedLookAround
  | unicodeNotAllowed
  | invalidUtf8
  | propertyNotFound
  | tooLarge
deriving DecidableEq, Repr, Inhabited

/-- A switch of the way the following expressions are read. -/
inductive Flag where
  | caseInsensitive
  | multiLine
  | dotMatchesNewLine
  | swapGreed
  | unicode
  | crlf
  | ignoreSpace
deriving DecidableEq, Repr, Inhabited

/-- A list of flags: those before the dash are set, those after it are cleared. -/
structure FlagList where
  set : List Flag
  clear : List Flag
deriving DecidableEq, Repr, Inhabited

namespace FlagList

/-- What the list says about a flag. -/
def state? (flags : FlagList) (flag : Flag) : Option Bool :=
  if flags.set.contains flag then some true
  else if flags.clear.contains flag then some false
  else none

end FlagList

/-- Places where an assertion can hold; an assertion consumes nothing. -/
inductive AssertionKind where
  | startLine
  | endLine
  | startText
  | endText
  | wordBoundary
  | notWordBoundary
  | wordStart
  | wordEnd
  | wordStartHalf
  | wordEndHalf
deriving DecidableEq, Repr, Inhabited

/-- The classes `\d`, `\s` and `\w`. -/
inductive PerlClass where
  | digit
  | space
  | word
deriving DecidableEq, Repr, Inhabited

/-- The classes written `[:name:]`. -/
inductive AsciiClass where
  | alnum
  | alpha
  | ascii
  | blank
  | cntrl
  | digit
  | graph
  | lower
  | print
  | punct
  | space
  | upper
  | word
  | xdigit
deriving DecidableEq, Repr, Inhabited

/-- A class of characters given by a property: a name, or a name with a value. -/
inductive PropertyQuery where
  | named (name : String)
  | valued (name value : String)
deriving DecidableEq, Repr, Inhabited

/-- A character; `asByte` if it was written with two hexadecimal digits, which without Unicode
stand for a byte. -/
structure Literal where
  char : Char
  asByte : Bool
deriving DecidableEq, Repr, Inhabited

/-- Operators between the sets of a bracketed class. -/
inductive SetOperator where
  | intersection
  | difference
  | symmetricDifference
deriving DecidableEq, Repr, Inhabited

/-- The contents of a bracketed class. -/
inductive ClassSet where
  | literal (literal : Literal)
  | range (first last : Literal)
  | ascii (kind : AsciiClass) (negated : Bool)
  | perl (kind : PerlClass) (negated : Bool)
  | property (query : PropertyQuery) (negated : Bool)
  | bracketed (negated : Bool) (contents : ClassSet)
  | union (items : List ClassSet)
  | operation (operator : SetOperator) (left right : ClassSet)
deriving Repr, Inhabited

/-- How often a repetition applies. -/
structure Bounds where
  least : Nat
  most : Option Nat
deriving DecidableEq, Repr, Inhabited

/-- What a pair of parentheses means besides grouping. -/
inductive GroupKind where
  | capture (index : Nat)
  | named (index : Nat) (name : String)
  | plain (flags : FlagList)
deriving DecidableEq, Repr, Inhabited

/-- A pattern as it is written. -/
inductive Ast where
  | empty
  | flags (flags : FlagList)
  | literal (literal : Literal)
  | dot
  | assertion (kind : AssertionKind)
  | perl (kind : PerlClass) (negated : Bool)
  | property (query : PropertyQuery) (negated : Bool)
  | bracketed (negated : Bool) (contents : ClassSet)
  | repetition (bounds : Bounds) (greedy : Bool) (body : Ast)
  | group (kind : GroupKind) (body : Ast)
  | alternation (branches : List Ast)
  | concat (parts : List Ast)
deriving Repr, Inhabited

/-- A union of one item is the item. -/
def ClassSet.ofItems : List ClassSet → ClassSet
  | [item] => item
  | items => .union items

/-- A sequence of one part is the part. -/
def Ast.ofParts : List Ast → Ast
  | [] => .empty
  | [part] => part
  | parts => .concat parts

/-- A choice of one branch is the branch. -/
def Ast.ofBranches : List Ast → Ast
  | [branch] => branch
  | branches => .alternation branches

mutual

/-- How many classes, unions and operators of a bracketed class lie within each other. -/
def ClassSet.depth : ClassSet → Nat
  | .literal _ | .range _ _ | .ascii _ _ | .perl _ _ | .property _ _ => 0
  | .bracketed _ contents => contents.depth + 1
  | .union items => ClassSet.depthOfList items + if items.isEmpty then 0 else 1
  | .operation _ left right => max left.depth right.depth + 1

def ClassSet.depthOfList : List ClassSet → Nat
  | [] => 0
  | item :: rest => max item.depth (ClassSet.depthOfList rest)

end

mutual

/-- How many classes, repetitions, groups, choices and sequences lie within each other. -/
def Ast.depth : Ast → Nat
  | .empty | .flags _ | .literal _ | .dot | .assertion _ | .perl _ _ | .property _ _ => 0
  | .bracketed _ contents => contents.depth + 1
  | .repetition _ _ body => body.depth + 1
  | .group _ body => body.depth + 1
  | .alternation branches => Ast.depthOfList branches + 1
  | .concat parts => Ast.depthOfList parts + 1

def Ast.depthOfList : List Ast → Nat
  | [] => 0
  | ast :: rest => max ast.depth (Ast.depthOfList rest)

end

/-- The deepest nesting that a pattern may have. -/
def nestingLimit : Nat := 250

end Fingerprint.Regex
