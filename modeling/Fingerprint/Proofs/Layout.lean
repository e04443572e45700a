import Fingerprint.Regex.Program

/-!
Where the code of an expression stands in a program.

The code of an expression is appended to a program. It goes on with a given address, and what stood
in the program before stays where it is; so the pieces of a larger expression are found again in the
program of the whole.
-/

set_option autoImplicit false

namespace Fingerprint.Regex

open Unicode (CodePoints)

/-- A program holds all instructions of another one at their addresses. -/
def Extends (code longer : Array Instruction) : Prop :=
  ∀ (address : Nat) instruction, code[address]? = some instruction →
    longer[address]? = some instruction

/-- Code that begins at `start` and goes on with `next` stands in a program. -/
abbrev Placing := Array Instruction → Nat → Nat → Prop

/-- An instruction by itself. -/
def Placing.single (make : Nat → Instruction) : Placing :=
  fun code start next => code[start]? = some (make next)

/-- One piece of code behind another. -/
def Placing.followedBy (first second : Placing) : Placing :=
  fun code start next => ∃ middle, first code start middle ∧ second code middle next

/-- Copies of a piece of code, one behind the other. -/
def Placing.copies (piece : Placing) : Nat → Placing
  | 0 => fun _ start next => start = next
  | count + 1 => piece.followedBy (piece.copies count)

/-- A piece of code that may be entered or left for `next`, and others of its kind behind it. -/
def Placing.optional (piece : Placing) (greedy : Bool) : Nat → Placing
  | 0 => fun _ start next => start = next
  | count + 1 => fun code start next =>
    code[start]? = some (.prefer greedy (start + 1) next) ∧
      ∃ middle, piece code (start + 1) middle ∧ piece.optional greedy count code middle next

/-- A piece of code, and behind it the choice between its beginning and `next`. -/
def Placing.loop (piece : Placing) (greedy : Bool) : Placing :=
  fun code first next =>
    ∃ back, piece code first back ∧ code[back]? = some (.prefer greedy first next)

/-- The code of characters one after another. -/
def Placing.text : List Char → Placing
  | [] => .single fun next => .fork [next]
  | [c] => .single (.chars (CodePoints.single c.toNat).index)
  | c :: rest => (single (.chars (CodePoints.single c.toNat).index)).followedBy (text rest)

mutual

/-- Where the code of an expression stands. -/
def Expr.placing : Expr → Placing
  | .empty => .single fun next => .fork [next]
  | .literal text => .text text
  | .chars set => .single (.chars set.index)
  | .assertion kind => .single (.assertion kind)
  | .repeat bounds greedy body =>
    match bounds.most, bounds.least with
    | none, 0 => fun code start next =>
      code[start]? = some (.prefer greedy (start + 1) next) ∧
        body.placing.loop greedy code (start + 1) next
    | none, least + 1 => (body.placing.copies least).followedBy (body.placing.loop greedy)
    | some most, least =>
      if max least most = 0 then .single fun next => .fork [next]
      else (body.placing.copies least).followedBy (body.placing.optional greedy (most - least))
  | .group index body =>
    (Placing.single (.save (2 * index))).followedBy
      (body.placing.followedBy (.single (.save (2 * index + 1))))
  | .seq parts => Expr.placingAll parts
  | .choice branches => fun code start next =>
    code[start]? = some (.fork (Expr.starts (start + 1) branches)) ∧
      Expr.placingAny branches code (start + 1) next

/-- Where the code of a sequence stands. -/
def Expr.placingAll : List Expr → Placing
  | [] => .single fun next => .fork [next]
  | part :: rest => part.placing.followedBy (Expr.placingAll rest)

/-- Where the code of the branches of a choice stands. -/
def Expr.placingAny : List Expr → Placing
  | [] => fun _ _ _ => True
  | branch :: rest => fun code start next =>
    branch.placing code start next ∧ Expr.placingAny rest code (start + branch.length) next

end

theorem Extends.trans {code longer longest : Array Instruction} (first : Extends code longer)
    (second : Extends longer longest) : Extends code longest :=
  fun address instruction holds => second address instruction (first address instruction holds)

theorem extends_push {code : Array Instruction} {instruction : Instruction} :
    Extends code (code.push instruction) := by
  intro address held holds
  obtain ⟨inside, rfl⟩ := Array.getElem?_eq_some_iff.mp holds
  rw [Array.getElem?_push_lt inside]

/-- Appends a piece of code of a fixed length, which is found again in every longer program. -/
structure Appends (emit : Nat → Array Instruction → Array Instruction) (length : Nat)
    (piece : Placing) : Prop where
  keeps : ∀ next code, Extends code (emit next code)
  size : ∀ next code, (emit next code).size = code.size + length
  placed : ∀ next code, piece (emit next code) code.size next
  lasts : ∀ {code longer start next}, Extends code longer → piece code start next →
    piece longer start next

namespace Appends

variable {emit emit' : Nat → Array Instruction → Array Instruction} {length length' : Nat}
  {piece piece' : Placing}

theorem single (make : Nat → Instruction) :
    Appends (fun next code => code.push (make next)) 1 (.single make) where
  keeps _ _ := extends_push
  size _ _ := Array.size_push _
  placed _ _ := Array.getElem?_push_size
  lasts longer placed := longer _ _ placed

theorem followedBy (first : Appends emit length piece) (second : Appends emit' length' piece') :
    Appends (fun next code => emit' next (emit (code.size + length) code)) (length + length')
      (piece.followedBy piece') where
  keeps _ _ := (first.keeps _ _).trans (second.keeps _ _)
  size _ _ := by rw [second.size, first.size, Nat.add_assoc]
  placed next code := by
    have behind := second.placed next (emit (code.size + length) code)
    rw [first.size] at behind
    exact ⟨_, first.lasts (second.keeps _ _) (first.placed _ code), behind⟩
  lasts longer := fun ⟨middle, before, behind⟩ =>
    ⟨middle, first.lasts longer before, second.lasts longer behind⟩

/-- Only the piece that is appended counts, not how. -/
theorem congr (appends : Appends emit length piece)
    (same : ∀ next code, emit' next code = emit next code)
    (sameLength : length' = length)
    (weaker : ∀ code start next, piece code start next → piece' code start next)
    (lasts : ∀ {code longer start next}, Extends code longer → piece' code start next →
      piece' longer start next) : Appends emit' length' piece' where
  keeps next code := by
    rw [same]
    exact appends.keeps next code
  size next code := by rw [same, sameLength, appends.size]
  placed next code := by
    rw [same]
    exact weaker _ _ _ (appends.placed next code)
  lasts := lasts

end Appends

theorem appends_text (text : List Char) :
    Appends (fun next code => emitLiteral next code text) (max text.length 1) (.text text) := by
  fun_induction Placing.text text with
  | case1 => exact .single fun next => .fork [next]
  | case2 c => exact .single (.chars (CodePoints.single c.toNat).index)
  | case3 c rest several ih =>
    have head := Appends.single (.chars (CodePoints.single c.toNat).index)
    have whole := head.followedBy ih
    refine whole.congr (fun next code => ?_) ?_ (fun _ _ _ placed => placed) whole.lasts
    · rw [emitLiteral]
      exact several
    · cases rest with
      | nil => exact absurd rfl several
      | cons => simp only [List.length_cons]; omega

section

variable {emit : Nat → Array Instruction → Array Instruction} {length : Nat} {piece : Placing}
  (appends : Appends emit length piece)

include appends

theorem lasts_copies (count : Nat) {code longer : Array Instruction} {start next : Nat}
    (extends_ : Extends code longer) (placed : piece.copies count code start next) :
    piece.copies count longer start next := by
  induction count generalizing start with
  | zero => exact placed
  | succ count ih =>
    obtain ⟨middle, first, others⟩ := placed
    exact ⟨middle, appends.lasts extends_ first, ih others⟩

theorem appends_copies (count : Nat) :
    Appends (fun next code => emitCopies emit length next (count + 1) code) ((count + 1) * length)
      (piece.copies (count + 1)) := by
  induction count with
  | zero =>
    refine appends.congr (fun _ _ => rfl) (Nat.one_mul _) ?_ (lasts_copies appends 1)
    exact fun _ _ next placed => ⟨next, placed, rfl⟩
  | succ count ih =>
    have whole := appends.followedBy ih
    refine whole.congr (fun _ _ => rfl) ?_ (fun _ _ _ placed => placed)
      (lasts_copies appends (count + 2))
    rw [Nat.succ_mul (count + 1), Nat.add_comm]

/-- The last copy is appended behind the others. -/
theorem emitCopies_succ (next count : Nat) (code : Array Instruction) :
    emitCopies emit length next (count + 1) code =
      emit next (emitCopies emit length (code.size + count * length) count code) := by
  induction count generalizing code with
  | zero => rfl
  | succ count ih =>
    have place : (emit (code.size + length) code).size + count * length =
        code.size + (count + 1) * length := by
      rw [appends.size, Nat.succ_mul]
      omega
    calc emitCopies emit length next (count + 2) code
      _ = emitCopies emit length next (count + 1) (emit (code.size + length) code) := rfl
      _ = emit next (emitCopies emit length (code.size + (count + 1) * length) count
            (emit (code.size + length) code)) := by rw [ih, place]
      _ = _ := by
        cases count with
        | zero => rw [Nat.one_mul]; rfl
        | succ => rfl

theorem lasts_optional (greedy : Bool) (count : Nat) {code longer : Array Instruction}
    {start next : Nat} (longer_ : Extends code longer)
    (placed : piece.optional greedy count code start next) :
    piece.optional greedy count longer start next := by
  induction count generalizing start with
  | zero => exact placed
  | succ count ih =>
    obtain ⟨entry, middle, first, others⟩ := placed
    exact ⟨longer_ _ _ entry, middle, appends.lasts longer_ first, ih others⟩

/-- A piece of code behind an instruction. -/
theorem Appends.behind (instruction : Instruction) (next : Nat) (code : Array Instruction) :
    let whole := emit next (code.push instruction)
    Extends code whole ∧ whole.size = code.size + 1 + length ∧
      whole[code.size]? = some instruction ∧ piece whole (code.size + 1) next := by
  refine ⟨extends_push.trans (appends.keeps _ _), ?_, ?_, ?_⟩
  · rw [appends.size, Array.size_push]
  · exact appends.keeps _ _ _ _ Array.getElem?_push_size
  · have placed := appends.placed next (code.push instruction)
    rwa [Array.size_push] at placed

theorem appends_optional (greedy : Bool) (count : Nat) :
    Appends (fun next code => emitOptional emit greedy length next (count + 1) code)
      ((count + 1) * (length + 1)) (piece.optional greedy (count + 1)) := by
  induction count with
  | zero =>
    have behind (next : Nat) (code : Array Instruction) :=
      appends.behind (.prefer greedy (code.size + 1) next) next code
    exact {
      keeps := fun next code => (behind next code).1
      size := fun next code => (behind next code).2.1.trans (by omega)
      placed := fun next code =>
        ⟨(behind next code).2.2.1, next, (behind next code).2.2.2, rfl⟩
      lasts := lasts_optional appends greedy 1 }
  | succ count ih =>
    have behind (next : Nat) (code : Array Instruction) :=
      appends.behind (.prefer greedy (code.size + 1) next) (code.size + 1 + length) code
    exact {
      keeps := fun next code => (behind next code).1.trans (ih.keeps _ _)
      size := fun next code => by
        rw [emitOptional, ih.size, (behind next code).2.1, Nat.succ_mul (count + 1)]
        omega
        simp
      placed := fun next code => by
        obtain ⟨-, size, entry, first⟩ := behind next code
        have others := ih.placed next (emit (code.size + 1 + length)
          (code.push (.prefer greedy (code.size + 1) next)))
        rw [size] at others
        exact ⟨ih.keeps _ _ _ _ entry, _, appends.lasts (ih.keeps _ _) first, others⟩
      lasts := lasts_optional appends greedy (count + 2) }

/-- A repetition without end: the last of its copies is followed by the choice to go back to it. -/
theorem appends_loop (greedy : Bool) :
    Appends (fun next code => (emit (code.size + length) code).push (.prefer greedy code.size next))
      (length + 1) (piece.loop greedy) where
  keeps _ _ := (appends.keeps _ _).trans extends_push
  size _ _ := by rw [Array.size_push, appends.size, Nat.add_assoc]
  placed next code := by
    refine ⟨code.size + length, appends.lasts extends_push (appends.placed _ _), ?_⟩
    have choice := @Array.getElem?_push_size _ (emit (code.size + length) code)
      (.prefer greedy code.size next)
    rwa [appends.size] at choice
  lasts longer := fun ⟨back, first, choice⟩ =>
    ⟨back, appends.lasts longer first, longer _ _ choice⟩

/-- Copies, and behind them the one that may be gone back to. -/
theorem appends_copies_loop (greedy : Bool) (count : Nat) :
    Appends (fun next code =>
        let last := code.size + count * length
        (emitCopies emit length (last + length) (count + 1) code).push (.prefer greedy last next))
      ((count + 1) * length + 1) ((piece.copies count).followedBy (piece.loop greedy)) := by
  have loop := appends_loop appends greedy
  cases count with
  | zero =>
    refine loop.congr (fun next code => ?_) (by rw [Nat.zero_add, Nat.one_mul])
      (fun _ start _ placed => ⟨start, rfl, placed⟩) ?_
    · simp only [Nat.zero_mul, Nat.add_zero, Nat.zero_add, emitCopies]
    · rintro _ _ _ _ longer ⟨middle, first, others⟩
      exact ⟨middle, first, loop.lasts longer others⟩
  | succ count =>
    have copies := appends_copies appends count
    have whole := copies.followedBy loop
    refine whole.congr (fun next code => ?_) (by rw [Nat.succ_mul (count + 1)]; omega)
      (fun _ _ _ placed => placed) whole.lasts
    simp only [emitCopies_succ appends _ (count + 1), copies.size]

theorem appends_bounded (positive : 0 < length) (greedy : Bool) (least most : Nat) :
    Appends (fun next code =>
        if max least most = 0 then code.push (.fork [next])
        else if most ≤ least then emitCopies emit length next least code
        else emitOptional emit greedy length next (most - least)
          (emitCopies emit length (code.size + least * length) least code))
      (max (least * length + (most - least) * (length + 1)) 1)
      (if max least most = 0 then .single fun next => .fork [next]
        else (piece.copies least).followedBy (piece.optional greedy (most - least))) := by
  split
  next none =>
    obtain ⟨rfl, rfl⟩ : least = 0 ∧ most = 0 := by omega
    have fork := Appends.single fun next => .fork [next]
    exact fork.congr (fun _ _ => rfl) (by simp) (fun _ _ _ placed => placed) fork.lasts
  next some =>
    split
    next fixed =>
      obtain ⟨count, rfl⟩ := Nat.exists_eq_add_one_of_ne_zero (show least ≠ 0 by omega)
      obtain none : most - (count + 1) = 0 := by omega
      have copies := appends_copies appends count
      refine copies.congr (fun _ _ => rfl) ?_ ?_ ?_
      · have atLeastOne : 0 < (count + 1) * length := Nat.mul_pos count.succ_pos positive
        rw [none, Nat.zero_mul]
        omega
      · rw [none]
        exact fun _ _ next placed => ⟨next, placed, rfl⟩
      · rw [none]
        rintro _ _ _ _ longer ⟨middle, first, rest⟩
        exact ⟨middle, copies.lasts longer first, rest⟩
    next open_ =>
      obtain ⟨more, several⟩ := Nat.exists_eq_add_one_of_ne_zero (show most - least ≠ 0 by omega)
      rw [several]
      have optional := appends_optional appends greedy more
      have atLeastOne : 0 < (more + 1) * (length + 1) :=
        Nat.mul_pos more.succ_pos length.succ_pos
      cases least with
      | zero =>
        refine optional.congr (fun _ _ => rfl) (by omega)
          (fun _ start _ placed => ⟨start, rfl, placed⟩) ?_
        rintro _ _ _ _ longer ⟨middle, first, rest⟩
        exact ⟨middle, first, optional.lasts longer rest⟩
      | succ count =>
        have whole := (appends_copies appends count).followedBy optional
        exact whole.congr (fun _ _ => rfl) (by omega) (fun _ _ _ placed => placed) whole.lasts

theorem appends_star (greedy nullable : Bool) :
    Appends (fun next code =>
        if nullable then
          (emit (code.size + 1 + length) (code.push (.prefer greedy (code.size + 1) next))).push
            (.prefer greedy (code.size + 1) next)
        else emit code.size (code.push (.prefer greedy (code.size + 1) next)))
      (length + if nullable then 2 else 1)
      (fun code start next => code[start]? = some (.prefer greedy (start + 1) next) ∧
        piece.loop greedy code (start + 1) next) := by
  have loop := appends_loop appends greedy
  have lasts {code longer : Array Instruction} {start next : Nat} (longer_ : Extends code longer)
      (placed : code[start]? = some (.prefer greedy (start + 1) next) ∧
        piece.loop greedy code (start + 1) next) :
      longer[start]? = some (.prefer greedy (start + 1) next) ∧
        piece.loop greedy longer (start + 1) next :=
    ⟨longer_ _ _ placed.1, loop.lasts longer_ placed.2⟩
  cases nullable with
  | true =>
    have behind (next : Nat) (code : Array Instruction) :=
      loop.behind (.prefer greedy (code.size + 1) next) next code
    simp only [Array.size_push] at behind
    simp only [if_true]
    exact {
      keeps := fun next code => (behind next code).1
      size := fun next code => by
        rw [Array.size_push, (behind next code).2.1]
        omega
      placed := fun next code => (behind next code).2.2
      lasts := lasts }
  | false =>
    have behind (next : Nat) (code : Array Instruction) :=
      appends.behind (.prefer greedy (code.size + 1) next) code.size code
    exact {
      keeps := fun next code => (behind next code).1
      size := fun next code => (behind next code).2.1.trans (by simp; omega)
      placed := fun next code =>
        ⟨(behind next code).2.2.1, _, (behind next code).2.2.2, (behind next code).2.2.1⟩
      lasts := lasts }

end

theorem Expr.lengthOfList_pos (parts : List Expr) : 0 < Expr.lengthOfList parts := by
  induction parts with
  | nil => exact Nat.one_pos
  | cons part rest ih => exact Nat.add_pos_right _ ih

theorem Expr.length_pos (expr : Expr) : 0 < expr.length := by
  cases expr with
  | empty | chars | assertion => exact Nat.one_pos
  | literal => exact Nat.le_max_right _ _
  | group | choice => exact Nat.succ_pos _
  | seq parts => exact Expr.lengthOfList_pos parts
  | «repeat» bounds greedy body =>
    rw [length]
    split
    next =>
      split
      · split <;> exact Nat.succ_pos _
      · exact Nat.succ_pos _
    next => exact Nat.le_max_right _ _

mutual

theorem Expr.appends : ∀ expr : Expr,
    Appends (fun next code => expr.emit next code) expr.length expr.placing
  | .empty => .single fun next => .fork [next]
  | .literal text => appends_text text
  | .chars set => .single (.chars set.index)
  | .assertion kind => .single (.assertion kind)
  | .repeat ⟨0, none⟩ greedy body => by
    have whole := appends_star body.appends greedy body.nullable
    exact whole
  | .repeat ⟨least + 1, none⟩ greedy body => by
    have whole := appends_copies_loop body.appends greedy least
    exact whole
  | .repeat ⟨least, some most⟩ greedy body => by
    have whole := appends_bounded body.appends body.length_pos greedy least most
    exact whole
  | .group index body => by
    have inner := body.appends.followedBy (.single (.save (2 * index + 1)))
    have whole := (Appends.single (.save (2 * index))).followedBy inner
    exact whole.congr (fun _ _ => rfl) (by rw [Expr.length]; omega) (fun _ _ _ placed => placed)
      whole.lasts
  | .seq parts => Expr.appendsAll parts
  | .choice branches => by
    have behind (next : Nat) (code : Array Instruction) :=
      (Expr.appendsAny branches).behind (.fork (Expr.starts (code.size + 1) branches)) next code
    exact {
      keeps := fun next code => (behind next code).1
      size := fun next code => (behind next code).2.1.trans (by rw [Expr.length]; omega)
      placed := fun next code => (behind next code).2.2
      lasts := fun longer placed =>
        ⟨longer _ _ placed.1, (Expr.appendsAny branches).lasts longer placed.2⟩ }

theorem Expr.appendsAll : ∀ parts : List Expr,
    Appends (fun next code => Expr.emitSeq next code parts) (Expr.lengthOfList parts)
      (Expr.placingAll parts)
  | [] => .single fun next => .fork [next]
  | part :: rest => part.appends.followedBy (Expr.appendsAll rest)

theorem Expr.appendsAny : ∀ branches : List Expr,
    Appends (fun next code => Expr.emitBranches next code branches) (Expr.lengthOfList branches)
      (Expr.placingAny branches)
  | [] => {
    keeps := fun _ _ => extends_push
    size := fun _ _ => Array.size_push _
    placed := fun _ _ => trivial
    lasts := fun _ _ => trivial }
  | branch :: rest => by
    have first := branch.appends
    have others := Expr.appendsAny rest
    exact {
      keeps := fun next code => (first.keeps _ _).trans (others.keeps _ _)
      size := fun next code => by
        rw [Expr.emitBranches, others.size, first.size, Expr.lengthOfList, Nat.add_assoc]
      placed := fun next code => by
        have behind := others.placed next (branch.emit next code)
        rw [first.size] at behind
        exact ⟨first.lasts (others.keeps _ _) (first.placed next code), behind⟩
      lasts := fun longer placed =>
        ⟨first.lasts longer placed.1, others.lasts longer placed.2⟩ }

end

/-- The program of an expression: its code stands between the instructions that save the bounds of
the match, and behind these the program accepts. -/
theorem Program.placed (expr : Expr) :
    let code := (Program.ofExpr expr).code
    let next := 1 + expr.length
    code[0]? = some (.save 0 1) ∧ expr.placing code 1 next ∧
      code[next]? = some (.save 1 (next + 1)) ∧ code[next + 1]? = some .accept := by
  intro code next
  let body := expr.emit next #[.save 0 1]
  have size : body.size = next := expr.appends.size next _
  have built : code = (body.push (.save 1 (next + 1))).push .accept := by
    change Array.push (Array.push body (.save 1 (body.size + 1))) _ = _
    rw [size]
  have longer : Extends body code := built ▸ extends_push.trans extends_push
  refine ⟨?_, ?_, ?_, ?_⟩
  · exact longer _ _ (expr.appends.keeps _ _ _ _ rfl)
  · exact expr.appends.lasts longer (expr.appends.placed next #[.save 0 1])
  · rw [built, ← size]
    exact extends_push _ _ Array.getElem?_push_size
  · have last := @Array.getElem?_push_size _ (body.push (.save 1 (next + 1))) .accept
    rwa [Array.size_push, size, ← built] at last

end Fingerprint.Regex
