import Fingerprint.Plugin.Compile
import Fingerprint.Proofs.GroupClosing
import Fingerprint.Proofs.ProgramSearch

/-!
Patterns of header names.

A pattern of a header name is put into a group between the anchors of the text. If it is a regular
expression by itself, the result matches the header names that it matches as a whole; but it is
refused if it ends in a comment, which takes the end of the group along. A text that is none may be
accepted if it closes the group itself.
-/

set_option autoImplicit false

namespace Fingerprint

namespace Regex

/-! ### What a pattern denotes -/

/-- What is known at the beginning of a pattern. -/
def Progress.start : Progress := ⟨[], [], 0, [], false⟩

/-- Reads a pattern, however deep it is. -/
def Ast.read (pattern : String) : Except SyntaxError Ast := do
  let (progress, rest) ← branchesOf .start pattern.toList
  if rest.isEmpty then return progress.ast else .error .groupUnopened

theorem Ast.parse_eq (pattern : String) :
    Ast.parse pattern = (Ast.read pattern >>= fun ast =>
      if nestingLimit < ast.depth then .error .nestingTooDeep else .ok ast) := by
  change (branchesOf .start pattern.toList >>= _) = (branchesOf .start pattern.toList >>= _) >>= _
  cases branchesOf .start pattern.toList with
  | error => rfl
  | ok read =>
    obtain ⟨progress, rest⟩ := read
    cases rest <;> rfl

/-- The pattern denotes a regular expression, read in any case and without limits of size. -/
def Denotes (pattern : String) (expr : Expr) : Prop :=
  ∃ ast flags, Ast.read pattern = .ok ast ∧ ast.expr (.initial true) = .ok (expr, flags)

/-- A parenthesis behind the pattern does no harm: the pattern ends within a comment. -/
def EndsInComment (pattern : String) : Prop :=
  ∃ expr, Denotes (pattern ++ ")") expr

/-! ### Reading an anchored pattern -/

/-- The pattern as a group between the anchors of the text. -/
def anchored (pattern : String) : String := "^(?:" ++ pattern ++ ")$"

def Ast.anchored (ast : Ast) : Ast :=
  .concat [.assertion .startLine, .group (.plain ⟨[], []⟩) ast, .assertion .endLine]

def Expr.anchored (expr : Expr) : Expr :=
  .inSequence [.assertion .textStart, expr, .assertion .textEnd]

/-- The end of an anchored pattern, from the parenthesis on. -/
def anchorTail : Tail := ⟨['$'], by decide⟩

def emptyTail : Tail := ⟨[], nofun⟩

theorem branchesOf_plain {progress : Progress} (plain : progress.verbose = false) (c : Char)
    (rest : List Char) :
    branchesOf progress (c :: rest) = readMarked branchesOf progress c rest := by
  rw [branchesOf_eq, plain]
  rfl

theorem branchesOf_anchored (pattern : String) :
    branchesOf .start (anchored pattern).toList =
      (branchesOf .start (pattern.toList ++ anchorTail.closing) >>= fun read =>
        readGroupClose branchesOf (Progress.start.push (.assertion .startLine)) (.plain ⟨[], []⟩)
          read.1 read.2) := by
  have chars : (anchored pattern).toList =
      '^' :: '(' :: '?' :: ':' :: (pattern.toList ++ anchorTail.closing) := by
    rw [anchored, String.toList_append, String.toList_append]
    rfl
  rw [chars, branchesOf_plain rfl]
  change branchesOf (Progress.start.push _) ('(' :: _) = _
  rw [branchesOf_plain rfl]
  rfl

theorem read_of_branches {pattern : String} {progress : Progress} {rest : List Char}
    (branches : branchesOf .start pattern.toList = .ok (progress, rest)) :
    Ast.read pattern = if rest.isEmpty then .ok progress.ast else .error .groupUnopened := by
  rw [Ast.read, branches]
  rfl

theorem read_of_error {pattern : String} {reason : SyntaxError}
    (branches : branchesOf .start pattern.toList = .error reason) :
    Ast.read pattern = .error reason := by
  rw [Ast.read, branches]
  rfl

theorem toList_closed (pattern : String) :
    (pattern ++ ")").toList = pattern.toList ++ emptyTail.closing :=
  String.toList_append

/-- A pattern that can be read is read in its group as well, unless a comment swallows the end of
the group. -/
theorem read_anchored_of_ok {pattern : String} {ast : Ast} (read : Ast.read pattern = .ok ast) :
    (Ast.read (pattern ++ ")") = .ok ast ∧ Ast.read (anchored pattern) = .error .groupUnclosed) ∨
      (Ast.read (pattern ++ ")") = .error .groupUnopened ∧
        Ast.read (anchored pattern) = .ok ast.anchored) := by
  have enclosed := enclosed_branchesOf .start pattern.toList
  cases branches : branchesOf .start pattern.toList with
  | error reason =>
    rw [read_of_error branches] at read
    cases read
  | ok found =>
    obtain ⟨progress, rest⟩ := found
    rw [read_of_branches branches] at read
    split at read
    next whole =>
      cases read
      obtain rfl := List.isEmpty_iff.mp whole
      obtain closes | ⟨-, closes⟩ := enclosed.of_ok branches
      · refine .inr ⟨read_of_branches ((toList_closed pattern).symm ▸ closes emptyTail), ?_⟩
        rw [Ast.read, branchesOf_anchored, closes]
        rfl
      · refine .inl ⟨read_of_branches ((toList_closed pattern).symm ▸ closes emptyTail), ?_⟩
        apply read_of_error
        rw [branchesOf_anchored, closes]
        rfl
    next => cases read

/-- A pattern that cannot be read is not read in its group either, unless it closes the group. -/
theorem read_anchored_of_error {pattern : String} {reason : SyntaxError}
    (failed : Ast.read pattern = .error reason) (other : reason ≠ .groupUnopened) :
    ∃ cause, Ast.read (anchored pattern) = .error cause := by
  have enclosed := enclosed_branchesOf .start pattern.toList
  cases branches : branchesOf .start pattern.toList with
  | ok found =>
    rw [read_of_branches branches] at failed
    split at failed
    next => cases failed
    next =>
      cases failed
      exact absurd rfl other
  | error reason =>
    have within := enclosed.of_error branches anchorTail
    have stops := branchesOf_stops .start (pattern.toList ++ anchorTail.closing)
    have split := branchesOf_anchored pattern
    cases closed : branchesOf .start (pattern.toList ++ anchorTail.closing) with
    | error cause =>
      rw [closed] at split
      exact ⟨cause, read_of_error split⟩
    | ok found =>
      obtain ⟨progress, rest⟩ := found
      -- What is left lies within the dollar sign, and it is not a parenthesis: nothing is left.
      have nothing : rest = [] := by
        obtain none | ⟨behind, same⟩ := stops progress rest closed
        · exact none
        · have left := within progress rest closed
          have parenthesis : ')' ∈ anchorTail.chars := left.subset (same ▸ List.mem_cons_self)
          exact absurd parenthesis (by decide)
      rw [closed, nothing] at split
      exact ⟨_, read_of_error split⟩

/-! ### The meaning of an anchored pattern -/

theorem expr_anchored (ast : Ast) :
    ast.anchored.expr (.initial true) = (ast.expr (.initial true) >>= fun read =>
      .ok (read.1.anchored, .initial true)) := by
  have inside : (Flags.initial true).apply ⟨[], []⟩ = .initial true := rfl
  simp only [Ast.anchored, Ast.expr, Ast.exprs, bind, Except.bind, inside]
  cases ast.expr (.initial true) <;> rfl

/-- The denoted expression between the anchors matches exactly the texts that it spans. -/
theorem search_anchored_isSome_iff {expr : Expr} {text : String} :
    ((Program.ofExpr expr.anchored).search (.ofText text.toList)).isSome ↔
      expr.SpansWhole text := by
  rw [Program.search_ofExpr_isSome_iff]
  simp only [Expr.anchored, Expr.spans_inSequence]
  constructor
  · rintro ⟨start, stop, onward, _, ⟨rfl, first⟩, middle, spans, _, ⟨rfl, last⟩, rfl⟩
    obtain rfl := onward.before_eq_none (Option.isNone_iff_eq_none.mp first)
    exact ⟨middle, spans, List.head?_eq_none_iff.mp (Option.isNone_iff_eq_none.mp last)⟩
  · rintro ⟨stop, spans, ends⟩
    refine ⟨.ofText text.toList, stop, .refl, _, ⟨rfl, rfl⟩, stop, spans, stop, ⟨rfl, ?_⟩, rfl⟩
    rw [ends]
    rfl

theorem isMatch_eq (regex : Regex) (text : String) :
    regex.isMatch text = (regex.program.search (.ofText text.toList)).isSome :=
  Option.isSome_map

theorem compileWith_eq (pattern : String) :
    compileWith true pattern = (Ast.read pattern >>= fun ast =>
      if nestingLimit < ast.depth then .error .nestingTooDeep
      else ast.expr (.initial true) >>= fun (expr, _) =>
        if expr.fits then .ok ⟨pattern, expr, Program.ofExpr expr⟩ else .error .tooLarge) := by
  rw [compileWith, Ast.parse_eq]
  cases Ast.read pattern with
  | error => rfl
  | ok ast =>
    dsimp only [bind, Except.bind]
    by_cases deep : nestingLimit < ast.depth
    · rw [if_pos deep, if_pos deep]
    · rw [if_neg deep, if_neg deep]
      rfl

end Regex

namespace Plugin

open Regex

/-- The pattern of a header name is refused for the size of what it denotes. -/
def ExceedsLimits (plugin pattern : String) : Prop :=
  compileHeaderName plugin pattern = .error (.patternMalformed plugin pattern .nestingTooDeep) ∨
    compileHeaderName plugin pattern = .error (.patternMalformed plugin pattern .tooLarge)

theorem compileHeaderName_eq (plugin pattern : String) :
    compileHeaderName plugin pattern =
      (compileWith true (anchored pattern)).mapError (.patternMalformed plugin pattern) :=
  rfl

variable {plugin pattern : String}

theorem compileHeaderName_of_read (plugin : String) {ast : Ast} {expr : Expr} {flags : Flags}
    (read : Ast.read (anchored pattern) = .ok ast.anchored)
    (denoted : ast.expr (.initial true) = .ok (expr, flags)) :
    compileHeaderName plugin pattern =
      if nestingLimit < ast.anchored.depth then
        .error (.patternMalformed plugin pattern .nestingTooDeep)
      else if expr.anchored.fits then
        .ok ⟨anchored pattern, expr.anchored, Program.ofExpr expr.anchored⟩
      else .error (.patternMalformed plugin pattern .tooLarge) := by
  rw [compileHeaderName_eq, compileWith_eq, read]
  dsimp only [bind, Except.bind]
  rw [expr_anchored, denoted]
  split
  next => rfl
  next =>
    dsimp only [bind, Except.bind]
    split <;> rfl

/-- The anchored pattern can be compiled only if it is read. -/
theorem read_of_compileHeaderName {name : Regex}
    (compiled : compileHeaderName plugin pattern = .ok name) :
    ∃ ast, Ast.read (anchored pattern) = .ok ast ∧ ∃ read, ast.expr (.initial true) = .ok read := by
  rw [compileHeaderName_eq, compileWith_eq] at compiled
  cases read : Ast.read (anchored pattern) with
  | error reason =>
    rw [read] at compiled
    cases compiled
  | ok ast =>
    rw [read] at compiled
    dsimp only [bind, Except.bind] at compiled
    cases denoted : ast.expr (.initial true) with
    | error reason =>
      rw [denoted] at compiled
      split at compiled <;> cases compiled
    | ok read => exact ⟨ast, rfl, read, denoted⟩

/-- A text that denotes nothing closes a parenthesis that it has not opened, or its anchored pattern
is refused. -/
theorem read_of_compiled_invalid {name : Regex} (invalid : ∀ expr, ¬ Denotes pattern expr)
    (compiled : compileHeaderName plugin pattern = .ok name) :
    Ast.read pattern = .error .groupUnopened := by
  obtain ⟨whole, readWhole, found, denoted⟩ := read_of_compileHeaderName compiled
  cases read : Ast.read pattern with
  | error reason =>
    by_cases unopened : reason = .groupUnopened
    · rw [unopened]
    · obtain ⟨cause, refused⟩ := read_anchored_of_error read unopened
      rw [refused] at readWhole
      cases readWhole
  | ok ast =>
    obtain ⟨-, refused⟩ | ⟨-, accepted⟩ := read_anchored_of_ok read
    · rw [refused] at readWhole
      cases readWhole
    · rw [accepted] at readWhole
      cases readWhole
      rw [expr_anchored] at denoted
      cases denotes : ast.expr (.initial true) with
      | error reason =>
        rw [denotes] at denoted
        cases denoted
      | ok pair => exact absurd ⟨ast, pair.2, read, denotes⟩ (invalid pair.1)

/-- A pattern of a header name that is a regular expression by itself is refused if it ends within a
comment. Otherwise it is compiled, as far as limits of size allow, and then it matches exactly the
header names that it spans as a whole, in any case. A text that is no regular expression can be
compiled only if it closes a parenthesis that it has not opened. -/
theorem compileHeaderName_matches (plugin pattern : String) :
    (∀ expr, Denotes pattern expr →
      (EndsInComment pattern →
        compileHeaderName plugin pattern =
          .error (.patternMalformed plugin pattern .groupUnclosed)) ∧
      (¬ EndsInComment pattern →
        (∃ name, compileHeaderName plugin pattern = .ok name ∧
          ∀ header, name.isMatch header ↔ expr.SpansWhole header) ∨
        ExceedsLimits plugin pattern)) ∧
    ((∀ expr, ¬ Denotes pattern expr) →
      ∀ name, compileHeaderName plugin pattern = .ok name →
        Ast.parse pattern = .error .groupUnopened) := by
  constructor
  · rintro expr ⟨ast, flags, read, denoted⟩
    obtain ⟨swallowed, refused⟩ | ⟨closed, accepted⟩ := read_anchored_of_ok read
    · refine ⟨fun _ => ?_, fun outside => absurd ⟨expr, ast, flags, swallowed, denoted⟩ outside⟩
      rw [compileHeaderName_eq, compileWith_eq, refused]
      rfl
    · refine ⟨fun ⟨_, _, _, inComment, _⟩ => ?_, fun _ => ?_⟩
      · rw [closed] at inComment
        cases inComment
      · have compiled := compileHeaderName_of_read plugin accepted denoted
        split at compiled
        next => exact .inr (.inl compiled)
        next =>
          split at compiled
          next =>
            refine .inl ⟨_, compiled, fun header => ?_⟩
            rw [isMatch_eq]
            exact search_anchored_isSome_iff
          next => exact .inr (.inr compiled)
  · intro invalid name compiled
    rw [Ast.parse_eq, read_of_compiled_invalid invalid compiled]
    rfl

/-- A text that is no regular expression is accepted, and matches a header name by its beginning. A
regular expression that ends in a comment is refused. -/
theorem compileHeaderName_accepts_unopened :
    (∀ expr, ¬ Denotes ")|(?:" expr) ∧
    (∃ name, compileHeaderName "x" ")|(?:" = .ok name ∧ name.isMatch "server") ∧
    (∃ expr, Denotes "(?x).#" expr) ∧
    compileHeaderName "x" "(?x).#" = .error (.patternMalformed "x" "(?x).#" .groupUnclosed) := by
  refine ⟨?_, ⟨_, rfl, ?_⟩, ⟨_, _, _, rfl, rfl⟩, rfl⟩
  · rintro expr ⟨ast, flags, read, -⟩
    cases read
  · decide +kernel

end Plugin

end Fingerprint
