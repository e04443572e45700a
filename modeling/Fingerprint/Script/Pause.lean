import Fingerprint.Script.Syntax

/-!
The parts of a program at which a generator pauses, and the operands in front of them.

An expression with a pause in it is evaluated operand by operand: each operand is replaced by the
literal of its value, until what is left has no pause.
-/

namespace Fingerprint.Script

mutual

/-- Whether an expression hands out a value; functions inside it do so on their own. -/
def Expr.pauses : Expr → Bool
  | .yield .. => true
  | .template _ values => Expr.anyPauses values
  | .tagged _ tag _ _ values => tag.pauses || Expr.anyPauses values
  | .array items => Expr.anyPauses items
  | .object members => Expr.anyPauses members
  | .spread value => value.pauses
  | .property key value => key.pauses || value.pauses
  | .memberFunction _ key _ => key.pauses
  | .unary _ operand => operand.pauses
  | .typeOf operand => operand.pauses
  | .delete operand => operand.pauses
  | .update _ _ target => target.pauses
  | .binary _ left right => left.pauses || right.pauses
  | .logical _ left right => left.pauses || right.pauses
  | .conditional test yes no => test.pauses || yes.pauses || no.pauses
  | .assign target value => target.pauses || value.pauses
  | .compound _ target value => target.pauses || value.pauses
  | .logicalAssign _ target value => target.pauses || value.pauses
  | .sequence first second => first.pauses || second.pauses
  | .member base key => base.pauses || key.pauses
  | .superMember key => key.pauses
  | .optional operand => operand.pauses
  | .chain whole => whole.pauses
  | .call callee arguments => callee.pauses || Expr.anyPauses arguments
  | .superCall arguments => Expr.anyPauses arguments
  | .construct callee arguments => callee.pauses || Expr.anyPauses arguments
  | .await operand => operand.pauses
  | .group inner => inner.pauses
  | _ => false

def Expr.anyPauses : List Expr → Bool
  | [] => false
  | expr :: rest => expr.pauses || Expr.anyPauses rest

end

def Expr.optionPauses : Option Expr → Bool
  | some expr => expr.pauses
  | none => false

mutual

/-- Whether a statement hands out a value. -/
def Stmt.pauses : Stmt → Bool
  | .expression value | .throw value => value.pauses
  | .block _ body => Stmt.anyPauses body
  | .variableDeclaration assignments | .lexical assignments => Expr.anyPauses assignments
  | .conditional test yes no => test.pauses || yes.pauses || no.pauses
  | .loop _ start test step body =>
    start.pauses || Expr.optionPauses test || Expr.optionPauses step || body.pauses
  | .forIn _ target object body => target.pauses || object.pauses || body.pauses
  | .forOf _ target items body => target.pauses || items.pauses || body.pauses
  | .whileLoop test body => test.pauses || body.pauses
  | .doWhile body test => body.pauses || test.pauses
  | .ret value => Expr.optionPauses value
  | .attempt body _ parameter handler finalizer =>
    body.pauses || Expr.optionPauses parameter ||
      (match handler with
        | some handler => handler.pauses
        | none => false) ||
      match finalizer with
      | some finalizer => finalizer.pauses
      | none => false
  | .switch value _ cases => value.pauses || Stmt.anyPauses cases
  | .case test body => Expr.optionPauses test || Stmt.anyPauses body
  | .labelled _ body => body.pauses
  | .withObject object body => object.pauses || body.pauses
  | _ => false

def Stmt.anyPauses : List Stmt → Bool
  | [] => false
  | statement :: rest => statement.pauses || Stmt.anyPauses rest

end

namespace Expr

/-! ### Operands -/

/-- The operands of an expression that something can be assigned to. -/
def targetOperands : Expr → List Expr
  | .member base (.hiddenName _) => [base]
  | .member base key => [base, key]
  | .superMember key => [key]
  | .group inner => targetOperands inner
  | _ => []

/-- A target with other operands. -/
def withTargetOperands : Expr → List Expr → Expr
  | .member _ (.hiddenName label), base :: _ => .member base (.hiddenName label)
  | .member .., base :: key :: _ => .member base key
  | .superMember _, key :: _ => .superMember key
  | .group inner, operands => withTargetOperands inner operands
  | other, _ => other

/-- The operands of what is called. -/
def calleeOperands (callee : Expr) : List Expr :=
  match callee.targetOperands with
  | [] => [callee]
  | operands => operands

def withCalleeOperands (callee : Expr) (operands : List Expr) : Expr :=
  match callee.targetOperands with
  | [] => operands.headD callee
  | _ => callee.withTargetOperands operands

/-- The operands of an expression that are all evaluated, in their order, before anything else is
done. Those of a call are at first what is called, and its arguments once that is known. -/
def operands : Expr → List Expr
  | .template _ values => values
  | .tagged _ (.method ..) _ _ values => values
  | .tagged _ tag _ _ _ => tag.calleeOperands
  | .array items => items
  | .unary _ operand | .typeOf operand | .await operand => [operand]
  | .delete operand => operand.targetOperands
  | .update _ _ target => target.targetOperands
  | .binary _ (.hiddenName _) right => [right]
  | .binary _ left right => [left, right]
  | .assign target value => target.targetOperands ++ [value]
  | .member base (.hiddenName _) => [base]
  | .member base key => [base, key]
  | .superMember key => [key]
  | .call (.method ..) arguments => arguments
  | .call callee _ => callee.calleeOperands
  | .construct callee arguments => callee :: arguments
  | .superCall arguments => arguments
  | .compound _ target _ | .logicalAssign _ target _ => target.targetOperands
  | _ => []

/-- An expression with other operands. -/
def withOperands : Expr → List Expr → Expr
  | .template pieces _, values => .template pieces values
  | .tagged site (.method callable receiver) cooked raw _, values =>
    .tagged site (.method callable receiver) cooked raw values
  | .tagged site tag cooked raw values, operands =>
    .tagged site (tag.withCalleeOperands operands) cooked raw values
  | .array _, items => .array items
  | .unary op _, operand :: _ => .unary op operand
  | .typeOf _, operand :: _ => .typeOf operand
  | .await _, operand :: _ => .await operand
  | .delete operand, operands => .delete (operand.withTargetOperands operands)
  | .update increment isPrefix target, operands =>
    .update increment isPrefix (target.withTargetOperands operands)
  | .binary op (.hiddenName label) _, right :: _ => .binary op (.hiddenName label) right
  | .binary op _ _, left :: right :: _ => .binary op left right
  | .assign target _, operands =>
    .assign (target.withTargetOperands operands.dropLast) (operands.getLastD .this)
  | .member _ (.hiddenName label), base :: _ => .member base (.hiddenName label)
  | .member .., base :: key :: _ => .member base key
  | .superMember _, key :: _ => .superMember key
  | .call (.method callable receiver) _, arguments => .call (.method callable receiver) arguments
  | .call callee arguments, operands => .call (callee.withCalleeOperands operands) arguments
  | .construct .., callee :: arguments => .construct callee arguments
  | .superCall _, arguments => .superCall arguments
  | .compound op target value, operands => .compound op (target.withTargetOperands operands) value
  | .logicalAssign op target value, operands =>
    .logicalAssign op (target.withTargetOperands operands) value
  | other, _ => other

/-- The expression in the place of a function that is called, until it has been evaluated. -/
def pendingCallee? : Expr → Option Expr
  | .call (.method ..) _ | .tagged _ (.method ..) .. => none
  | .call callee _ => some callee
  | .tagged _ tag .. => some tag
  | _ => none

/-- A call whose function is known. -/
def withCallee (form : Expr) (callable receiver : Value) : Expr :=
  match form with
  | .call _ arguments => .call (.method callable receiver) arguments
  | .tagged site _ cooked raw values => .tagged site (.method callable receiver) cooked raw values
  | other => other

/-- Whether an operand has been evaluated. -/
def isSettled : Expr → Bool
  | .literal _ | .hole | .method .. | .spread (.literal _) | .hiddenName _ => true
  | _ => false

/-- The place of the first operand that has not been evaluated, and the operand. -/
def unsettled? (form : Expr) : Option (Nat × Expr) :=
  (form.operands.zipIdx.find? (!·.1.isSettled)).map fun (operand, place) => (place, operand)

/-- An expression whose operand at a place is another one. -/
def settle (form : Expr) (place : Nat) (operand : Expr) : Expr :=
  form.withOperands (form.operands.set place operand)

end Expr

end Fingerprint.Script
