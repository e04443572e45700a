import Fingerprint.Regex.Parser
import Fingerprint.Regex.Size
import Fingerprint.Regex.Search

/-!
Compiled regular expressions and the groups that they capture.
-/

namespace Fingerprint

/-- A regular expression ready to be searched for. -/
structure Regex where
  pattern : String
  expr : Regex.Expr
  program : Regex.Program
deriving Repr, Inhabited

namespace Regex

/-- The texts captured by one match: group 0 is the whole match, and a group that took no part
has no text. -/
structure Captures where
  groups : List (Option String)
deriving DecidableEq, Repr, Inhabited

/-- The text of a group; groups that do not exist have none. -/
def Captures.get (captures : Captures) (index : Nat) : Option String :=
  (captures.groups[index]?).join

/-- Reads a pattern with the flags in force at its beginning. -/
def compileWith (caseInsensitive : Bool) (pattern : String) : Except SyntaxError Regex := do
  let ast ← Ast.parse pattern
  let (expr, _) ← ast.expr (Flags.initial caseInsensitive)
  if expr.fits then return ⟨pattern, expr, Program.ofExpr expr⟩ else .error .tooLarge

def compile (pattern : String) : Except SyntaxError Regex := compileWith false pattern

/-- The number of capture groups, the whole match not among them. -/
def groupCount (regex : Regex) : Nat := regex.expr.groupCount

/-- The captures that slots of positions denote. -/
def capturesOf (chars : Array Char) (slots : Slots) : Captures :=
  ⟨(List.range (slots.size / 2)).map fun index =>
    match slots.getD (2 * index) none, slots.getD (2 * index + 1) none with
    | some start, some stop => some (String.ofList (chars.extract start stop).toList)
    | _, _ => none⟩

/-- The first match in a text. -/
def captures? (regex : Regex) (text : String) : Option Captures :=
  let chars := text.toList
  (regex.program.search (Cursor.ofText chars)).map (capturesOf chars.toArray)

/-- All matches in a text that do not overlap, from left to right. -/
def capturesAll (regex : Regex) (text : String) : List Captures :=
  let chars := text.toList
  let array := chars.toArray
  (regex.program.searchAll (chars.length + 2) (Cursor.ofText chars) none).map (capturesOf array)

def isMatch (regex : Regex) (text : String) : Bool := (regex.captures? text).isSome

end Regex

end Fingerprint
