import Fingerprint.Regex.Expr

/-!
Programs that match a regular expression.

A program is a list of instructions; the place of an instruction is its address. A fork lists the
addresses to go on with in order of preference.
-/

namespace Fingerprint.Regex

open Unicode (CodePoints)

inductive Instruction where
  | chars (set : CodePoints.Index) (next : Nat)
  | assertion (kind : Assertion) (next : Nat)
  | save (slot : Nat) (next : Nat)
  | fork (targets : List Nat)
  | accept
deriving Repr, Inhabited

/-- A program, begun at address 0. -/
structure Program where
  code : Array Instruction
  slots : Nat
deriving Repr, Inhabited

/-- A fork that prefers the first target if `greedy`, else the second. -/
def Instruction.prefer (greedy : Bool) (first second : Nat) : Instruction :=
  .fork (if greedy then [first, second] else [second, first])

mutual

/-- The number of instructions of an expression. -/
def Expr.length : Expr → Nat
  | .empty => 1
  | .literal text => max text.length 1
  | .chars _ => 1
  | .assertion _ => 1
  | .repeat bounds _ body =>
    match bounds.most with
    | none =>
      if bounds.least = 0 then body.length + (if body.nullable then 2 else 1)
      else bounds.least * body.length + 1
    | some most => max (bounds.least * body.length + (most - bounds.least) * (body.length + 1)) 1
  | .group _ body => body.length + 2
  | .seq parts => Expr.lengthOfList parts
  | .choice branches => Expr.lengthOfList branches + 1

def Expr.lengthOfList : List Expr → Nat
  | [] => 1
  | part :: rest => part.length + Expr.lengthOfList rest

end

/-- Appends `count` copies of a piece of code of length `length`, each going on with the one after
it and the last with `next`. The last address tells where the next copy begins. -/
def emitCopies (emit : Nat → Array Instruction → Array Instruction) (length next : Nat) :
    Nat → Array Instruction → Array Instruction
  | 0, code => code
  | 1, code => emit next code
  | count + 1, code =>
    emitCopies emit length next count (emit (code.size + length) code)

/-- Appends `count` optional copies: each is entered or left for `next`. -/
def emitOptional (emit : Nat → Array Instruction → Array Instruction) (greedy : Bool)
    (length next : Nat) : Nat → Array Instruction → Array Instruction
  | 0, code => code
  | 1, code => emit next (code.push (.prefer greedy (code.size + 1) next))
  | count + 1, code =>
    let start := code.size
    let code := code.push (.prefer greedy (start + 1) next)
    emitOptional emit greedy length next count (emit (start + 1 + length) code)

/-- Appends the code of characters one after another. -/
def emitLiteral (next : Nat) (code : Array Instruction) : List Char → Array Instruction
  | [] => code.push (.fork [next])
  | [c] => code.push (.chars (CodePoints.single c.toNat).index next)
  | c :: rest =>
    emitLiteral next (code.push (.chars (CodePoints.single c.toNat).index (code.size + 1))) rest

mutual

/-- Appends the code of an expression, which goes on with the address `next`. -/
def Expr.emit (next : Nat) (code : Array Instruction) : Expr → Array Instruction
  | .empty => code.push (.fork [next])
  | .literal text => emitLiteral next code text
  | .chars set => code.push (.chars set.index next)
  | .assertion kind => code.push (.assertion kind next)
  | .repeat bounds greedy body =>
    let length := body.length
    let emit := fun next code => body.emit next code
    let start := code.size
    match bounds.most with
    | none =>
      if bounds.least = 0 then
        if body.nullable then
          let code := code.push (.prefer greedy (start + 1) next)
          let code := body.emit (start + 1 + length) code
          code.push (.prefer greedy (start + 1) next)
        else
          body.emit start (code.push (.prefer greedy (start + 1) next))
      else
        let last := start + (bounds.least - 1) * length
        let code := emitCopies emit length (last + length) bounds.least code
        code.push (.prefer greedy last next)
    | some most =>
      if max bounds.least most = 0 then code.push (.fork [next])
      else if most ≤ bounds.least then emitCopies emit length next bounds.least code
      else
        let code := emitCopies emit length (start + bounds.least * length) bounds.least code
        emitOptional emit greedy length next (most - bounds.least) code
  | .group index body =>
    let code := code.push (.save (2 * index) (code.size + 1))
    let code := body.emit (code.size + body.length) code
    code.push (.save (2 * index + 1) next)
  | .seq parts => Expr.emitSeq next code parts
  | .choice branches =>
    let code := code.push (.fork (Expr.starts (code.size + 1) branches))
    Expr.emitBranches next code branches

/-- Appends the code of a sequence. -/
def Expr.emitSeq (next : Nat) (code : Array Instruction) : List Expr → Array Instruction
  | [] => code.push (.fork [next])
  | part :: rest => Expr.emitSeq next (part.emit (code.size + part.length) code) rest

/-- Appends the code of the branches of a choice. -/
def Expr.emitBranches (next : Nat) (code : Array Instruction) : List Expr → Array Instruction
  | [] => code.push (.fork [next])
  | branch :: rest => Expr.emitBranches next (branch.emit next code) rest

/-- The addresses where branches begin. -/
def Expr.starts (start : Nat) : List Expr → List Nat
  | [] => []
  | branch :: rest => start :: Expr.starts (start + branch.length) rest

end

/-- The program of an expression. It saves the bounds of the whole match as group 0. -/
def Program.ofExpr (expr : Expr) : Program :=
  let code := #[Instruction.save 0 1]
  let code := expr.emit (1 + expr.length) code
  let code := code.push (.save 1 (code.size + 1))
  ⟨code.push .accept, 2 * (expr.groupCount + 1)⟩

end Fingerprint.Regex
