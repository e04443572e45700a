import Mathlib.Logic.Relation
import Fingerprint.Regex.Search

/-!
What a regular expression matches.

An expression spans a piece of the text, from one place to another. The pieces that a sequence spans
lie one behind the other; a repetition spans as many pieces as its bounds admit.
-/

set_option autoImplicit false

namespace Fingerprint.Regex

/-- The character at a place, and the place behind it. -/
def Cursor.Reads (here : Cursor) (c : Char) (there : Cursor) : Prop :=
  ∃ rest, here.after = c :: rest ∧ there = ⟨here.position + 1, some c, rest⟩

/-- The place is one that is reached by going on from another one. -/
def Cursor.Onward : Cursor → Cursor → Prop :=
  Relation.ReflTransGen fun here there => ∃ c, here.Reads c there

/-- The characters stand between the places. -/
def SpansText : List Char → Cursor → Cursor → Prop
  | [], here, there => here = there
  | c :: text, here, there => ∃ middle, here.Reads c middle ∧ SpansText text middle there

/-- A number of pieces, one behind the other, each spanned in the same way. -/
def Repeats (spans : Cursor → Cursor → Prop) : Nat → Cursor → Cursor → Prop
  | 0, here, there => here = there
  | count + 1, here, there => ∃ middle, spans here middle ∧ Repeats spans count middle there

/-- The numbers of times that a repetition may apply. -/
def Bounds.Admits (bounds : Bounds) (count : Nat) : Prop :=
  bounds.least ≤ count ∧ ∀ most, bounds.most = some most → count ≤ max bounds.least most

mutual

/-- Whether an expression matches what stands between two places. -/
def Expr.Spans : Expr → Cursor → Cursor → Prop
  | .empty, here, there => here = there
  | .literal text, here, there => SpansText text here there
  | .chars set, here, there => ∃ c, here.Reads c there ∧ set.index.contains c.toNat
  | .assertion kind, here, there => here = there ∧ kind.holds here.before here.after.head?
  | .repeat bounds _ body, here, there =>
    ∃ count, bounds.Admits count ∧ Repeats body.Spans count here there
  | .group _ body, here, there => body.Spans here there
  | .seq parts, here, there => Expr.SpansAll parts here there
  | .choice branches, here, there => Expr.SpansAny branches here there

/-- Whether expressions match one behind the other. -/
def Expr.SpansAll : List Expr → Cursor → Cursor → Prop
  | [], here, there => here = there
  | part :: rest, here, there =>
    ∃ middle, part.Spans here middle ∧ Expr.SpansAll rest middle there

/-- Whether one of the expressions matches. -/
def Expr.SpansAny : List Expr → Cursor → Cursor → Prop
  | [], _, _ => False
  | branch :: rest, here, there => branch.Spans here there ∨ Expr.SpansAny rest here there

end

/-- Whether an expression matches a text from its beginning to its end. -/
def Expr.SpansWhole (expr : Expr) (text : String) : Prop :=
  ∃ stop, expr.Spans (.ofText text.toList) stop ∧ stop.after = []

variable {here there : Cursor}

/-! ### Repetitions -/

theorem Repeats.append {spans : Cursor → Cursor → Prop} {first second : Nat} {middle : Cursor}
    (before : Repeats spans first here middle) (behind : Repeats spans second middle there) :
    Repeats spans (first + second) here there := by
  induction first generalizing here with
  | zero =>
    obtain rfl := before
    rwa [Nat.zero_add]
  | succ count ih =>
    obtain ⟨next, once, more⟩ := before
    rw [Nat.succ_add]
    exact ⟨next, once, ih more⟩

theorem Repeats.split {spans : Cursor → Cursor → Prop} {first second : Nat}
    (whole : Repeats spans (first + second) here there) :
    ∃ middle, Repeats spans first here middle ∧ Repeats spans second middle there := by
  induction first generalizing here with
  | zero =>
    rw [Nat.zero_add] at whole
    exact ⟨here, rfl, whole⟩
  | succ count ih =>
    rw [Nat.succ_add] at whole
    obtain ⟨next, once, more⟩ := whole
    obtain ⟨middle, before, behind⟩ := ih more
    exact ⟨middle, ⟨next, once, before⟩, behind⟩

/-- Some pieces behind a fixed number of them. -/
theorem exists_repeats_add {spans : Cursor → Cursor → Prop} {first : Nat} {admits : Nat → Prop} :
    (∃ middle, Repeats spans first here middle ∧
        ∃ times, admits times ∧ Repeats spans times middle there) ↔
      ∃ count, (first ≤ count ∧ admits (count - first)) ∧ Repeats spans count here there := by
  constructor
  · rintro ⟨middle, before, times, admitted, behind⟩
    refine ⟨first + times, ⟨Nat.le_add_right _ _, ?_⟩, before.append behind⟩
    rwa [Nat.add_sub_cancel_left]
  · rintro ⟨count, ⟨enough, admitted⟩, whole⟩
    rw [← Nat.add_sub_cancel' enough] at whole
    obtain ⟨middle, before, behind⟩ := whole.split
    exact ⟨middle, before, _, admitted, behind⟩

/-! ### Sequences

A sequence is built from its parts with nested sequences taken apart and neighbouring literals
joined; it spans the same pieces. -/

theorem spansText_append {first second : List Char} :
    SpansText (first ++ second) here there ↔
      ∃ middle, SpansText first here middle ∧ SpansText second middle there := by
  induction first generalizing here with
  | nil => exact ⟨fun spans => ⟨here, rfl, spans⟩, fun ⟨_, same, spans⟩ => same ▸ spans⟩
  | cons c text ih =>
    constructor
    · rintro ⟨next, reads, more⟩
      obtain ⟨middle, before, behind⟩ := ih.mp more
      exact ⟨middle, ⟨next, reads, before⟩, behind⟩
    · rintro ⟨middle, ⟨next, reads, before⟩, behind⟩
      exact ⟨next, reads, ih.mpr ⟨middle, before, behind⟩⟩

namespace Expr

theorem spansAll_append {first second : List Expr} :
    SpansAll (first ++ second) here there ↔
      ∃ middle, SpansAll first here middle ∧ SpansAll second middle there := by
  induction first generalizing here with
  | nil => exact ⟨fun spans => ⟨here, rfl, spans⟩, fun ⟨_, same, spans⟩ => same ▸ spans⟩
  | cons part rest ih =>
    constructor
    · rintro ⟨next, once, more⟩
      obtain ⟨middle, before, behind⟩ := ih.mp more
      exact ⟨middle, ⟨next, once, before⟩, behind⟩
    · rintro ⟨middle, ⟨next, once, before⟩, behind⟩
      exact ⟨next, once, ih.mpr ⟨middle, before, behind⟩⟩

theorem spansAll_singleton {part : Expr} : SpansAll [part] here there ↔ part.Spans here there :=
  ⟨fun ⟨_, spans, same⟩ => same ▸ spans, fun spans => ⟨there, spans, rfl⟩⟩

theorem spansAll_parts {expr : Expr} : SpansAll expr.parts here there ↔ expr.Spans here there := by
  cases expr with
  | empty | seq => rfl
  | literal | chars | assertion | «repeat» | group | choice => exact spansAll_singleton

theorem spansAll_flatMap_parts {exprs : List Expr} :
    SpansAll (exprs.flatMap parts) here there ↔ SpansAll exprs here there := by
  induction exprs generalizing here with
  | nil => rfl
  | cons part rest ih =>
    rw [List.flatMap_cons, spansAll_append]
    exact exists_congr fun middle => and_congr spansAll_parts ih

theorem spansAll_joinLiterals {exprs : List Expr} :
    SpansAll (joinLiterals exprs) here there ↔ SpansAll exprs here there := by
  fun_induction joinLiterals exprs generalizing here with
  | case1 => rfl
  | case2 text rest text' rest' joined ih =>
    rw [joined] at ih
    calc SpansAll (.literal (text ++ text') :: rest') here there
      _ ↔ SpansAll (.literal text :: .literal text' :: rest') here there := by
        constructor
        · rintro ⟨last, both, more⟩
          obtain ⟨middle, first, second⟩ := spansText_append.mp both
          exact ⟨middle, first, last, second, more⟩
        · rintro ⟨middle, first, last, second, more⟩
          exact ⟨last, spansText_append.mpr ⟨middle, first, second⟩, more⟩
      _ ↔ SpansAll (.literal text :: rest) here there :=
        exists_congr fun _ => and_congr_right fun _ => ih
  | case3 text rest _ ih => exact exists_congr fun _ => and_congr_right fun _ => ih
  | case4 part rest _ ih => exact exists_congr fun _ => and_congr_right fun _ => ih

/-- A sequence spans what its parts span one behind the other. -/
theorem spans_inSequence {exprs : List Expr} :
    (inSequence exprs).Spans here there ↔ SpansAll exprs here there := by
  rw [← spansAll_flatMap_parts, ← spansAll_joinLiterals, inSequence]
  split
  next none => rw [none]; rfl
  next part single => rw [single, spansAll_singleton]
  next => rfl

end Expr

/-! ### Places of a text -/

theorem Cursor.Onward.before_eq_none {text : List Char}
    (onward : (Cursor.ofText text).Onward here) (first : here.before = none) :
    here = .ofText text := by
  cases onward with
  | refl => rfl
  | tail _ reads =>
    obtain ⟨c, rest, _, rfl⟩ := reads
    cases first

end Fingerprint.Regex
