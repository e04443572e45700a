import Fingerprint.Script.Parser.Member

/-!
Reading patterns and the parameters of functions.
-/

namespace Fingerprint.Script.Reading

variable (g : Grammar)

/-! ### Names and targets -/

def failDuplicate {α : Type} : Reading α :=
  fail "Duplicate parameter name not allowed in this context"

def bindName (kind : TargetKind) (name : String) : Reading Unit := do
  match kind with
  | .assigned => noteName name
  | .variable => declareVariable name
  | .lexical kind => declareLexical kind name
  | .parameter =>
    if (← get).parameters.contains name then failDuplicate
    modify fun state => { state with parameters := state.parameters ++ [name] }

/-- What a failed check of a target is reported as. -/
inductive TargetUse where
  | assignment
  | update
  | loop
  | pattern

def TargetUse.message : TargetUse → String
  | .assignment => "invalid assignment left-hand side"
  | .update => "invalid increment/decrement operand"
  | .loop => "invalid for in/of left hand-side"
  | .pattern => "invalid destructuring target"

/-- Refuses an expression that nothing can be assigned to. -/
def checkTarget (use : TargetUse) (target : Expr) : Reading Unit := do
  match target with
  | .name name | .group (.name name) =>
    if isProtected (← context) name then fail "invalid lvalue in strict mode"
  | .member .. | .superMember _ => return
  | _ => fail use.message

/-- What a pattern gives a value to that is no pattern itself. -/
def patternTarget (kind : TargetKind) : Reading Expr := do
  match kind with
  | .assigned =>
    let target ← g.operand
    checkTarget .pattern target
    return target
  | kind =>
    let context ← context
    match ← token with
    | .name name _ =>
      if isReserved context name || isProtected context name then fail TargetUse.pattern.message
      advance
      bindName kind name
      return .name name
    | _ => fail TargetUse.pattern.message

/-- The value for when there is none, behind a target. -/
def withStandard (target : Expr) : Reading Expr := do
  if ← accept "=" then return .assign target (← g.assignment true) else return target

/-! ### Patterns -/

/-- The part of a pattern that takes one value: a pattern in it or a target. -/
def patternPart (kind : TargetKind) (close : String) : Reading Expr := do
  if ← groupBefore ["[", "\x7b"] [",", "=", close] then g.pattern kind true
  else withStandard g (← patternTarget g kind)

/-- The member of a pattern that takes what the others leave. -/
def restMember (kind : TargetKind) : Reading Expr := do
  let target ← patternTarget g kind
  unless ← isSign "\x7d" do fail "assignment rest property must be last"
  return .spread target

def memberPart (kind : TargetKind) : Reading Expr := do
  let head ← memberHead g ⟨false, true, false⟩
  match head.shorthand with
  | some name =>
    if isProtected (← context) name then fail TargetUse.pattern.message
    bindName kind name
    return .property head.key (← withStandard g (.name name))
  | none =>
    expect ":"
    return .property head.key (← patternPart g kind "\x7d")

def objectPattern (kind : TargetKind) : Reading Expr := do
  advance
  let members ← loop [] fun found => do
    if ← accept "\x7d" then return .inr found
    else
      let member ← if ← accept "..." then restMember g kind else memberPart g kind
      unless ← isSign "\x7d" do expect ","
      return .inl (found ++ [member])
  return .object members

/-- The part of a pattern that takes all items that are left. -/
def restItem (kind : TargetKind) : Reading Expr := do
  if (← isSign ",") || (← isSign "]") then fail "missing binding pattern..."
  let target ← if ← groupBefore ["[", "\x7b"] [",", "=", "]"] then do
      if ← groupBefore ["[", "\x7b"] ["="] then fail "rest element cannot have a default value"
      g.pattern kind false
    else patternTarget g kind
  unless ← isSign "]" do fail "rest element must be the last one"
  return .spread target

def arrayPattern (kind : TargetKind) : Reading Expr := do
  advance
  let items ← loop [] fun found => do
    if ← accept "]" then return .inr found
    else if ← accept "," then return .inl (found ++ [Expr.hole])
    else
      let item ← if ← accept "..." then restItem g kind else patternPart g kind "]"
      unless ← isSign "]" do expect ","
      return .inl (found ++ [item])
  return .array items

/-- A pattern; `true` if a value for when there is none may stand behind it. -/
def pattern (kind : TargetKind) (allowsStandard : Bool) : Reading Expr := do
  let found ← if ← isSign "\x7b" then objectPattern g kind
    else if ← isSign "[" then arrayPattern g kind
    else fail "invalid assignment syntax"
  if allowsStandard then withStandard g found else return found

/-! ### Parameters -/

/-- Whether all parameters are plain names. -/
def isSimpleList (parameters : List Expr) : Bool :=
  parameters.all fun parameter => match parameter with
    | .name _ => true
    | _ => false

/-- The number of parameters in front of the first one that may be missing. -/
def requiredCount : List Expr → Nat
  | [] => 0
  | .assign .. :: _ | .spread _ :: _ => 0
  | _ :: rest => requiredCount rest + 1

def parameterName : Reading Expr := do
  match ← token with
  | .name name escaped =>
    if isReserved (← context) name then
      if escaped then failReserved name else fail "missing formal parameter"
    advance
    modify fun state => { state with parameters := state.parameters ++ [name] }
    return .name name
  | _ => fail "missing formal parameter"

/-- A parameter behind the sign for the rest, if it has one. -/
def parameter (isRest : Bool) : Reading Expr := do
  let target ← if (← isSign "[") || (← isSign "\x7b") then g.pattern .parameter false
    else parameterName
  if isRest then
    unless ← isSign ")" do unexpectedWord
    return .spread target
  else withStandard g target

/-- Parameters up to the closing parenthesis, behind which `isLast` stays. -/
def parameters : Reading (List Expr) := do
  expect "("
  loop [] fun found => do
    if ← isSign ")" then return .inr found
    else
      let isRest ← accept "..."
      let item ← parameter g isRest
      unless ← isSign ")" do expect ","
      return .inl (found ++ [item])

/-- Refuses names that strict code refuses, and names that are bound twice where that is not
allowed. -/
def checkParameters (head : FunctionHead) (parameters : List Expr) (isPlainlyStrict : Bool) :
    Reading Unit := do
  let context ← context
  let names := (← get).parameters
  let isSimple := isSimpleList parameters
  if context.isStrict then
    if !isSimple && isPlainlyStrict then
      fail "\"use strict\" not allowed in function with default or destructuring parameter"
    if head.name == Units.ofString "eval" || head.name == Units.ofString "arguments" then
      if head.kind = .ordinary then fail "invalid function name in strict code"
    let plain := parameters.filterMap fun parameter => match parameter with
      | .name name | .assign (.name name) _ | .spread (.name name) => some name
      | _ => none
    if plain.any (isProtected context) then fail "invalid argument name in strict code"
  let needsDistinct := context.isStrict || !isSimple || head.kind = .arrow || head.kind = .method
  if needsDistinct && names.eraseDups.length < names.length then failDuplicate

end Fingerprint.Script.Reading
