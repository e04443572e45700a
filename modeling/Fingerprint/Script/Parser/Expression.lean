import Fingerprint.Script.Parser.Pattern

/-!
Reading expressions.
-/

namespace Fingerprint.Script.Reading

variable (g : Grammar)

/-! ### Literals -/

/-- Items of an array; a comma without an item in front of it leaves a hole. -/
def arrayLiteral : Reading Expr := do
  advance
  let items ← loop [] fun found => do
    if ← isSign "]" then return .inr found
    else if ← accept "," then return .inl (found ++ [.hole])
    else
      let item ← if ← accept "..." then do pure (Expr.spread (← g.assignment true))
        else g.assignment true
      if ← accept "," then return .inl (found ++ [item]) else return .inr (found ++ [item])
  expect "]"
  return .array items

def arguments : Reading (List Expr) := do
  expect "("
  let found ← loop [] fun found => do
    if ← isSign ")" then return .inr found
    else
      let item ← if ← accept "..." then do pure (Expr.spread (← g.assignment true))
        else g.assignment true
      unless ← isSign ")" do expect ","
      return .inl (found ++ [item])
  advance
  return found

/-- Whether a member sets what the object inherits from. -/
def isPrototypeMember : Expr → Bool
  | .property (.literal (.text units)) _ => units == Units.ofString "__proto__"
  | _ => false

/-- A member of an object, and whether it sets what the object inherits from. -/
def objectMember : Reading (Expr × Bool) := do
  if ← accept "..." then return (.spread (← g.assignment true), false)
  let start := (← get).current.start
  let head ← memberHead g ⟨true, true, false⟩
  match head.shorthand with
  | some name =>
    noteName name
    let key := if name = "__proto__" then .group head.key else head.key
    return (.property key (.name name), false)
  | none =>
    if ← isSign "(" then
      return (.memberFunction head.modifiers.kind head.key (← method g head start), false)
    else
      expect ":"
      let member := Expr.property head.key (← g.assignment true)
      return (member, isPrototypeMember member)

def objectLiteral : Reading Expr := do
  advance
  let (members, _) ← loop ([], false) fun (found, hasPrototype) => do
    if ← isSign "\x7d" then return .inr (found, hasPrototype)
    else
      let (member, isPrototype) ← objectMember g
      if isPrototype && hasPrototype then fail "duplicate __proto__ property name"
      let state := (found ++ [member], hasPrototype || isPrototype)
      if ← accept "," then return .inl state else return .inr state
  expect "\x7d"
  return .object members

/-- The pieces and values of a template whose opening sign is the current word. A piece with a fault
is refused unless a function gets the template. -/
def templateParts (isTagged : Bool) : Reading (List Lexer.Piece × List Expr) :=
  loop ([], []) fun (pieces, values) => do
    let state ← get
    let piece ← lift (Lexer.template state.source (state.current.start + 1))
    match piece.fault, isTagged with
    | some message, false => fail message
    | _, _ => pure ()
    let pieces := pieces ++ [piece]
    resume piece.stop
    if piece.continues then
      let value ← expression g true
      unless ← isSign "\x7d" do fail "expected '\x7d' after template expression"
      return .inl (pieces, values ++ [value])
    else return .inr (pieces, values)

def template : Reading Expr := do
  let (pieces, values) ← templateParts g false
  return .template (pieces.map fun piece => piece.cooked.getD .empty) values

/-! ### Primary expressions -/

/-- An expression in parentheses. The parentheses count only around a name, where they keep
functions from taking that name. -/
def parenthesized : Reading Expr := do
  expect "("
  let inner ← expression g true
  expect ")"
  match inner with
  | .name _ => return .group inner
  | other => return other

/-- The name of a function expression, if it has one. -/
def functionExpressionName (isAsync isGenerator : Bool) : Reading (Option String) := do
  let context ← context
  match ← token with
  | .name name escaped =>
    let isOwnWord := (name = "yield" && isGenerator) || (name = "await" && isAsync)
    if isReserved context name then
      if escaped || isOwnWord then failReserved name
      else if name = "yield" && !context.isStrict || name = "await" then
        advance
        return some name
      else return none
    else if isOwnWord then failReserved name
    else
      advance
      return some name
  | _ => return none

def functionExpression (isAsync : Bool) (start : Nat) : Reading Expr := do
  advance
  let isGenerator ← accept "*"
  let name ← functionExpressionName isAsync isGenerator
  return .function (← g.function
    { kind := .ordinary
      member := .method
      name := Units.ofString (name.getD "")
      isAsync := isAsync
      isGenerator := isGenerator
      bindsItself := name.isSome
      start := start })

def regexLiteral : Reading Expr := do
  let state ← get
  let (body, flags, stop) ← lift (Lexer.regex state.source (state.current.start + 1))
  match Pattern.compile body flags with
  | .error message => fail message
  | .ok _ =>
    resume stop
    return .regex body flags

def importExpression : Reading Expr := do
  advance
  if ← accept "." then
    unless ← isWord "meta" do fail "meta expected"
    fail "import.meta only valid in module code"
  expect "("
  let operand ← g.assignment true
  expect ")"
  return .unary .load operand

/-- A reference to what is above the object or class that a method belongs to. -/
def superExpression : Reading Expr := do
  advance
  let context ← context
  if ← isSign "(" then
    unless context.allowsSuperCall do fail "super() is only valid in a derived class constructor"
    return .superCall (← arguments g)
  else if (← isSign ".") || (← isSign "[") then
    unless context.allowsSuper do fail "'super' is only valid in a method"
    if ← accept "[" then
      let key ← expression g true
      expect "]"
      return .superMember key
    else
      advance
      match ← token with
      | .name name _ => advance; return .superMember (.literal (.ofText name))
      | .hiddenName _ => fail "private class field forbidden after super"
      | _ => fail "expecting field name"
  else fail "invalid use of 'super'"

/-- The arguments of a constructor, which may be left out. -/
def constructorArguments : Reading (List Expr) := do
  if ← isSign "(" then arguments g else return []

/-- An expression that begins with `new`. -/
def newExpression : Reading Expr := do
  advance
  if ← accept "." then
    unless ← isWord "target" do fail "expecting target"
    unless (← context).allowsNewTarget do fail "new.target only allowed within functions"
    advance
    return .newTarget
  else
    let callee ← g.callee
    return .construct callee (← constructorArguments g)

/-- A word that is not a keyword in an expression. -/
def nameExpression (name : String) (escaped : Bool) : Reading Expr := do
  if isReserved (← context) name then
    if escaped then failReserved name else unexpected
  let start := (← get).current.start
  let next ← following
  if name = "async" && !escaped && !next.afterLine then
    match next.token with
    | .name "function" false =>
      advance
      return ← functionExpression g true start
    | _ => pure ()
  noteName name
  advance
  return .name name

/-- A word that begins an expression. -/
def wordExpression (word : String) (escaped : Bool) : Reading Expr := do
  if escaped then nameExpression g word escaped
  else
    match word with
    | "this" => advance; return .this
    | "null" => advance; return .literal .null
    | "true" => advance; return .literal (.bool true)
    | "false" => advance; return .literal (.bool false)
    | "function" => functionExpression g false (← get).current.start
    | "class" => return .classOf (← g.classDefinition false).2
    | "super" => superExpression g
    | "new" => newExpression g
    | "import" => importExpression g
    | word => nameExpression g word false

def primary : Reading Expr := do
  match ← token with
  | .name word escaped => wordExpression g word escaped
  | .number value => advance; return .literal (.number value)
  | .bigInt value => advance; return .literal (.bigInt value)
  | .text units => advance; return .literal (.text units)
  | .sign "(" => parenthesized g
  | .sign "[" => arrayLiteral g
  | .sign "\x7b" => objectLiteral g
  | .sign "/" | .sign "/=" => regexLiteral
  | .sign "\x60" => template g
  | _ => unexpected

/-! ### Members and calls -/

/-- The key behind a point. -/
def pointKey : Reading Expr := do
  match ← token with
  | .name name _ => advance; return .literal (.ofText name)
  | .hiddenName name =>
    noteHiddenName name
    advance
    return .hiddenName name
  | _ => fail "expecting field name"

/-- Whether a function body uses a name that stands for its arguments. -/
def noteEval (callee : Expr) : Reading Unit :=
  match callee with
  | .name "eval" => modify fun state => { state with usesArguments := true }
  | _ => return

def bracketKey : Reading Expr := do
  expect "["
  let key ← expression g true
  expect "]"
  return key

/-- The members, calls and templates behind an expression. A chain with optional parts ends at what
is none of them. -/
def tail (calls : Bool) (start : Expr) : Reading Expr := do
  let (found, chained) ← loop (start, false) fun (found, chained) => do
    if ← accept "." then return .inl (.member found (← pointKey), chained)
    else if ← isSign "[" then return .inl (.member found (← bracketKey g), chained)
    else if calls && (← isSign "(") then
      noteEval found
      return .inl (.call found (← arguments g), chained)
    else if ← isSign "\x60" then
      if chained then fail "template literal cannot appear in an optional chain"
      let (pieces, values) ← templateParts g true
      let site ← newTemplate
      return .inl (.tagged site found (pieces.map (·.cooked)) (pieces.map (·.raw)) values, chained)
    else if ← accept "?." then
      unless calls do fail "new keyword cannot be used with an optional chain"
      let base := Expr.optional found
      if ← isSign "(" then return .inl (.call base (← arguments g), true)
      else if ← isSign "[" then return .inl (.member base (← bracketKey g), true)
      else return .inl (.member base (← pointKey), true)
    else return .inr (found, chained)
  return if chained then .chain found else found

/-- An expression with members but without calls. -/
def calleeExpression : Reading Expr := do tail g false (← primary g)

def operandExpression : Reading Expr := do tail g true (← primary g)

/-! ### Operators -/

/-- Operators in front of their operand. -/
inductive FrontOp where
  | unary (op : UnaryOp)
  | typeOf
  | delete
  | await
  | update (increment : Bool)

def frontOp? : Reading (Option FrontOp) := do
  match ← token with
  | .sign "+" => return some (.unary .plus)
  | .sign "-" => return some (.unary .minus)
  | .sign "!" => return some (.unary .not)
  | .sign "~" => return some (.unary .bitNot)
  | .sign "++" => return some (.update true)
  | .sign "--" => return some (.update false)
  | .name "void" false => return some (.unary .void)
  | .name "typeof" false => return some .typeOf
  | .name "delete" false => return some .delete
  | .name "await" false =>
    let context ← context
    unless isReserved context "await" do return none
    unless context.isAsync do fail "unexpected 'await' keyword"
    if context.inParameters then fail "await in default expression"
    return some .await
  | _ => return none

/-- The operators in front of an operand, the innermost one first. -/
def frontOps : Reading (List FrontOp) :=
  loop [] fun found => do
    match ← frontOp? with
    | some op =>
      advance
      return .inl (op :: found)
    | none => return .inr found

def FrontOp.isUpdate : FrontOp → Bool
  | .update _ => true
  | _ => false

/-- Refuses operands of `delete`. -/
def checkDelete (operand : Expr) : Reading Unit := do
  match operand with
  | .name _ | .group (.name _) =>
    if (← context).isStrict then fail "cannot delete a direct reference in strict mode"
  | .member _ (.hiddenName _) | .chain (.member _ (.hiddenName _)) =>
    fail "cannot delete a private class field"
  | _ => return

def applyFront (operand : Expr) (op : FrontOp) : Reading Expr := do
  match op with
  | .unary op => return .unary op operand
  | .typeOf => return .typeOf operand
  | .delete =>
    checkDelete operand
    return .delete operand
  | .await => return .await operand
  | .update increment =>
    checkTarget .update operand
    return .update increment true operand

def updateSign? : Token → Option Bool
  | .sign "++" => some true
  | .sign "--" => some false
  | _ => none

/-- An operand that may be counted up or down behind it. -/
def suffixed : Reading Expr := do
  let operand ← g.operand
  match updateSign? (← token), ← afterLine with
  | some increment, false =>
    checkTarget .update operand
    advance
    return .update increment false operand
  | _, _ => return operand

/-- An operand with the operators in front of it. -/
def single : Reading Expr := do
  let ops ← frontOps
  let operand ← suffixed g
  let inner := ops.takeWhile FrontOp.isUpdate
  let operand ← inner.foldlM applyFront operand
  if inner.length < ops.length && (← isSign "**") then
    fail "unparenthesized unary expression can't appear on the left-hand side of '**'"
  (ops.drop inner.length).foldlM applyFront operand

/-- Operands with signs of powers between them, of which the last one comes first. -/
def powers : Reading Expr := do
  let first ← single g
  let operands ← loop [first] fun found => do
    if ← accept "**" then return .inl ((← single g) :: found) else return .inr found
  match operands with
  | last :: others => return others.foldl (fun right left => .binary .pow left right) last
  | [] => return first

/-- An operator of two operands. -/
inductive InfixOp where
  | binary (op : BinaryOp)
  | logical (op : LogicalOp)

/-- An operator with its strength; a stronger one takes its operands first. -/
def infixOp? (allowIn : Bool) : Token → Option (InfixOp × Nat)
  | .sign text =>
    match text with
    | "||" => some (.logical .or, 2)
    | "&&" => some (.logical .and, 3)
    | "|" => some (.binary .bitOr, 4)
    | "^" => some (.binary .bitXor, 5)
    | "&" => some (.binary .bitAnd, 6)
    | "==" => some (.binary .equal, 7)
    | "!=" => some (.binary .notEqual, 7)
    | "===" => some (.binary .same, 7)
    | "!==" => some (.binary .notSame, 7)
    | "<" => some (.binary .less, 8)
    | ">" => some (.binary .greater, 8)
    | "<=" => some (.binary .lessEq, 8)
    | ">=" => some (.binary .greaterEq, 8)
    | "<<" => some (.binary .shiftLeft, 9)
    | ">>" => some (.binary .shiftRight, 9)
    | ">>>" => some (.binary .shiftRightZero, 9)
    | "+" => some (.binary .add, 10)
    | "-" => some (.binary .sub, 10)
    | "*" => some (.binary .mul, 11)
    | "/" => some (.binary .div, 11)
    | "%" => some (.binary .rem, 11)
    | _ => none
  | .name "instanceof" false => some (.binary .instanceOf, 8)
  | .name "in" false => if allowIn then some (.binary .isIn, 8) else none
  | _ => none

/-- The strength of the operator that asks for the members of an object. -/
def membershipStrength : Nat := 8

/-- A left operand that waits for its right one. -/
structure Waiting where
  left : Expr
  op : InfixOp
  strength : Nat

def Waiting.isLogical (waiting : Waiting) : Bool :=
  match waiting.op with
  | .logical _ => true
  | .binary _ => false

def Waiting.combine (waiting : Waiting) (right : Expr) : Expr :=
  match waiting.op with
  | .binary op => .binary op waiting.left right
  | .logical op => .logical op waiting.left right

/-- Combines the operands whose operators are at least as strong as the next one. -/
def settle (strength : Nat) (right : Expr) : List Waiting → Expr × List Waiting
  | [] => (right, [])
  | waiting :: rest =>
    if strength ≤ waiting.strength then settle strength (waiting.combine right) rest
    else (right, waiting :: rest)

/-- An operand of an operator of some strength. A hidden name is one in front of `in`. -/
def infixOperand (allowIn : Bool) (strength : Nat) : Reading Expr := do
  match ← token with
  | .hiddenName name =>
    let isMembership := match (← following).token with
      | .name "in" false => true
      | _ => false
    if allowIn && isMembership && strength < membershipStrength then
      noteHiddenName name
      advance
      return .hiddenName name
    else unexpected
  | _ => powers g

/-- Operands with operators between them that have at least some strength. -/
def infixExpression (allowIn : Bool) (least : Nat) : Reading Expr := do
  let first ← infixOperand g allowIn 0
  loop (first, []) fun (operand, waiting) => do
    let found := (infixOp? allowIn (← token)).filter fun (_, strength) => least ≤ strength
    match found with
    | none =>
      if waiting.any Waiting.isLogical && (← isSign "??") then fail "cannot mix ?? with && or ||"
      return .inr (settle 0 operand waiting).1
    | some (op, strength) =>
      advance
      let (left, waiting) := settle strength operand waiting
      let right ← infixOperand g allowIn strength
      return .inl (right, ⟨left, op, strength⟩ :: waiting)

/-- Operands of which the first one counts that there is. -/
def coalescing (allowIn : Bool) : Reading Expr := do
  let first ← infixExpression g allowIn 0
  loop first fun found => do
    if ← accept "??" then
      return .inl (.logical .coalesce found (← infixExpression g allowIn 4))
    else return .inr found

def conditional (allowIn : Bool) : Reading Expr := do
  let test ← coalescing g allowIn
  if ← accept "?" then
    let yes ← g.assignment true
    expect ":"
    return .conditional test yes (← g.assignment allowIn)
  else return test

/-! ### Assignments and arrow functions -/

inductive AssignOp where
  | plain
  | compound (op : BinaryOp)
  | logical (op : LogicalOp)

def assignOp? : Token → Option AssignOp
  | .sign text =>
    match text with
    | "=" => some .plain
    | "+=" => some (.compound .add)
    | "-=" => some (.compound .sub)
    | "*=" => some (.compound .mul)
    | "/=" => some (.compound .div)
    | "%=" => some (.compound .rem)
    | "**=" => some (.compound .pow)
    | "<<=" => some (.compound .shiftLeft)
    | ">>=" => some (.compound .shiftRight)
    | ">>>=" => some (.compound .shiftRightZero)
    | "&=" => some (.compound .bitAnd)
    | "|=" => some (.compound .bitOr)
    | "^=" => some (.compound .bitXor)
    | "&&=" => some (.logical .and)
    | "||=" => some (.logical .or)
    | "??=" => some (.logical .coalesce)
    | _ => none
  | _ => none

/-- An assignment to a target that has been read. -/
def assignTo (allowIn : Bool) (target : Expr) (op : AssignOp) : Reading Expr := do
  advance
  checkTarget .assignment target
  let value ← g.assignment allowIn
  match op with
  | .plain => return .assign target value
  | .compound op => return .compound op target value
  | .logical op => return .logicalAssign op target value

def arrowFunction (isAsync : Bool) (start : Nat) : Reading Expr :=
  return .function (← g.function
    { kind := .arrow
      member := .method
      name := .empty
      isAsync := isAsync
      isGenerator := false
      bindsItself := false
      start := start })

/-- Whether a word is the arrow of a function, on the line of its parameters. -/
def isArrow (lexeme : Lexeme) : Bool :=
  !lexeme.afterLine &&
    match lexeme.token with
    | .sign text => text == "=>"
    | _ => false

/-- Whether parameters of an arrow function begin at a token. -/
def beginsArrow (lexeme : Lexeme) : Reading Bool := do
  let state ← get
  match lexeme.token with
  | .sign "(" =>
    return (Lexer.group (isReserved state.context) state.source lexeme).next.any isArrow
  | .name name _ =>
    return Lexer.standsArrow state.source lexeme.stop && !isReserved state.context name
  | _ => return false

/-- Whether an asynchronous arrow function begins at the current word. -/
def beginsAsyncArrow : Reading Bool := do
  if ← isWord "async" then
    let next ← following
    if next.afterLine then return false else beginsArrow next
  else return false

def yieldExpression (allowIn : Bool) : Reading Expr := do
  let context ← context
  unless context.isGenerator do fail "unexpected 'yield' keyword"
  if context.inParameters then fail "yield in default expression"
  advance
  let isBare ← if ← afterLine then pure true
    else match ← token with
      | .sign text => pure ([";", ")", "]", "\x7d", ",", ":"].contains text)
      | .stop => pure true
      | _ => pure false
  if isBare then return .yield false (.literal .undefined)
  else if ← accept "*" then return .yield true (← g.assignment allowIn)
  else return .yield false (← g.assignment allowIn)

def assignmentExpression (allowIn : Bool) : Reading Expr := do
  let state ← get
  if (← isWord "yield") && isReserved state.context "yield" then yieldExpression g allowIn
  else if ← beginsAsyncArrow then
    advance
    arrowFunction g true state.current.start
  else if !(← isWord "async") && (← beginsArrow state.current) then
    arrowFunction g false state.current.start
  else if ← groupBefore ["[", "\x7b"] ["="] then g.pattern .assigned true
  else
    let target ← conditional g allowIn
    match assignOp? (← token) with
    | some op => assignTo g allowIn target op
    | none => return target

end Fingerprint.Script.Reading
