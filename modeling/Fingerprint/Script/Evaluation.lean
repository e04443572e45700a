import Fingerprint.Script.ClassDefinition
import Fingerprint.Script.Descriptor
import Fingerprint.Script.Operators
import Fingerprint.Script.Program

/-!
The evaluation of expressions.

Each form has a function of its own, which evaluates the expressions inside it through the record of
evaluators.
-/

namespace Fingerprint.Script

variable (it : Interpreter)

/-! ### Literals -/

/-- Evaluates items and arguments; a spread stands for several. -/
def evaluateItems (env : Env) : List Expr → Array Value → M (Array Value)
  | [], found => return found
  | .spread inner :: rest, found => do
    let values ← listOf it (← it.expression env inner)
    evaluateItems env rest (found ++ values)
  | item :: rest, found => do
    let value ← it.expression env item
    evaluateItems env rest (found.push value)

/-- The arguments of a call. -/
def evaluateArguments (env : Env) (arguments : List Expr) : M (Array Value) := do
  let found ← evaluateItems it env arguments #[]
  checkArguments found.size
  return found

/-- The items of an array literal, some of which may be missing. -/
def evaluateSlots (env : Env) : List Expr → Array (Option Value) → M (Array (Option Value))
  | [], found => return found
  | .hole :: rest, found => evaluateSlots env rest (found.push none)
  | .spread inner :: rest, found => do
    let values ← listOf it (← it.expression env inner)
    evaluateSlots env rest (found ++ values.map some)
  | item :: rest, found => do
    let value ← it.expression env item
    evaluateSlots env rest (found.push (some value))

def evaluateArray (env : Env) (items : List Expr) : M Value := do
  let items ← evaluateSlots it env items #[]
  return .object (← allocate (.ofKind (some Intrinsic.arrayPrototype.ref)
    (.array items items.size true)))

/-- Copies the listed properties of a value. -/
def copyProperties (target : Ref) (source : Value) : M Unit := do
  if source.isNullish then return
  eachListed it (← toObject source) [] fun key value => createProperty target key value

/-- Whether a key in a literal sets what the object inherits from. -/
def isPrototypeKey : Expr → Bool
  | .literal (.text units) => units == Units.ofString "__proto__"
  | _ => false

def setPrototypeOf (object : Ref) (prototype : Value) : M Unit := do
  match prototype with
  | .object ref => modifyObject object fun object => { object with prototype := some ref }
  | .null => modifyObject object fun object => { object with prototype := none }
  | _ => return

def evaluateMember (env : Env) (object : Ref) (member : Expr) : M Unit := do
  match member with
  | .spread inner => copyProperties it object (← it.expression env inner)
  | .memberFunction kind key code =>
    defineMethod it env object kind (← evaluateKey it env key) code true
  | .property key value =>
    if isPrototypeKey key then setPrototypeOf object (← it.expression env value)
    else
      let key ← evaluateKey it env key
      let name ← match value with
        | .function _ | .classOf _ => do pure (some (← keyLabel key))
        | _ => pure none
      createProperty object key (← evaluateNamed it env name value)
  | _ => return

def evaluateObject (env : Env) (members : List Expr) : M Value := do
  let object ← newObject
  members.forM (evaluateMember it env object)
  return .object object

/-- The pieces of a template with the texts of the values between them. -/
def joinPieces : List Units → List Units → Units → Units
  | piece :: pieces, text :: texts, found => joinPieces pieces texts (found ++ piece ++ text)
  | pieces, _, found => pieces.foldl (· ++ ·) found

def joinTemplate (env : Env) (pieces : List Units) (values : List Expr) : M Value := do
  let values ← values.mapM (it.expression env)
  let texts ← values.mapM (toUnits it)
  return .text (joinPieces pieces texts .empty)

def newTemplateObject (cooked : List (Option Units)) (raw : List Units) : M Ref := do
  let pieces := cooked.map fun piece => match piece with
    | some units => Value.text units
    | none => .undefined
  let object ← newArray pieces.toArray
  let rawObject ← newArray (raw.map Value.text).toArray
  lockObject rawObject Property.freeze false
  putProperty object "raw" (.fixed (.object rawObject))
  lockObject object Property.freeze false
  return object

/-- The object of the pieces of a template, which is made once. -/
def templateObject (site : Nat) (cooked : List (Option Units)) (raw : List Units) : M Value := do
  match (← get).templates.lookup site with
  | some ref => return .object ref
  | none =>
    let ref ← newTemplateObject cooked raw
    modify fun machine => { machine with templates := (site, ref) :: machine.templates }
    return .object ref

/-! ### Calls -/

/-- Ends the chain around it if a value is missing. -/
def orSkip (value : Value) : M Unit := if value.isNullish then throw .skipped else return

/-- Evaluates a chain; a missing operand makes all of it `missing`. -/
def evaluateChain {α : Type} (missing : α) (chain : M α) : M α := do
  try chain
  catch
    | .skipped => return missing
    | abrupt => throw abrupt

/-- A function to be called, and the value that `this` has in it. -/
def evaluateCallee (env : Env) (callee : Expr) : M (Value × Value) := do
  match callee with
  | .member object key =>
    let base ← it.expression env object
    let key ← evaluateKey it env key
    return (← readMember it base key, base)
  | .superMember key =>
    return (← readSuper it env (← evaluateKey it env key), ← readThis env)
  | .group inner => evaluateCallee env inner
  | .chain inner => evaluateChain (.undefined, .undefined) (evaluateCallee env inner)
  | .optional inner =>
    let (function, this) ← evaluateCallee env inner
    orSkip function
    return (function, this)
  | .name name =>
    match ← resolve it env name with
    | .object _ ref => return (← getProperty it ref (.ofUnits name), .object ref)
    | _ => return (← readName it env name, .undefined)
  | .method function this => return (function, this)
  | other => return (← it.expression env other, .undefined)

/-- Whether a value is the function that evaluates texts. -/
def isEval : Value → M Bool
  | .object ref => do
    match (← getObject ref).kind with
    | .native native => return native == ⟨.global, "eval"⟩
    | _ => return false
  | _ => return false

def evaluateCall (env : Env) (callee : Expr) (arguments : List Expr) : M Value := do
  let (function, this) ← evaluateCallee it env callee
  let arguments ← evaluateArguments it env arguments
  match callee with
  | .name "eval" =>
    if ← isEval function then
      let text : Value := arguments[0]?.getD .undefined
      match text with
      | .text units => evaluateText it env units
      | other => return other
    else it.call function this arguments
  | _ => it.call function this arguments

def evaluateConstruct (env : Env) (callee : Expr) (arguments : List Expr) : M Value := do
  let function ← it.expression env callee
  let arguments ← evaluateArguments it env arguments
  it.construct function arguments function

def evaluateTagged (env : Env) (site : Nat) (tag : Expr) (cooked : List (Option Units))
    (raw : List Units)
    (values : List Expr) : M Value := do
  let (function, this) ← evaluateCallee it env tag
  let pieces ← templateObject site cooked raw
  it.call function this (← evaluateItems it env values #[pieces])

/-! ### Operators -/

def evaluateTypeOf (env : Env) (operand : Expr) : M Value := do
  match operand with
  | .name name | .group (.name name) =>
    match ← readName? it env name with
    | some value => return .ofText (← typeName value)
    | none => return .ofText "undefined"
  | operand => return .ofText (← typeName (← it.expression env operand))

def deleteMember (env : Env) (base : Value) (key : Key) : M Value := do
  let object ← toObject base
  let gone ← deleteProperty it object key
  if !gone && env.isStrict then throwType "could not delete property"
  return .bool gone

def evaluateDelete (env : Env) (operand : Expr) : M Value := do
  match operand with
  | .member object key =>
    let base ← it.expression env object
    deleteMember it env base (← evaluateKey it env key)
  | .chain (.member object key) =>
    evaluateChain (.bool true) do
      let base ← it.expression env object
      deleteMember it env base (← evaluateKey it env key)
  | .group inner => evaluateDelete env inner
  | .superMember _ => throwNew .reference "unsupported reference to 'super'"
  | .name name =>
    match ← resolve it env name with
    | .binding _ => return .bool false
    | .object _ ref => return .bool (← deleteProperty it ref (.ofUnits name))
    | .global => return .bool (← deleteProperty it Intrinsic.global.ref (.ofUnits name))
  | other =>
    let _ ← it.expression env other
    return .bool true

def evaluateUpdate (env : Env) (increment isPrefix : Bool) (target : Expr) : M Value := do
  let target ← evaluateTarget it env target
  let before ← toNumeric it (← readTarget it env target)
  let after : Value := match before with
    | .bigInt value => .bigInt (if increment then value + 1 else value - 1)
    | .number value => .number (if increment then value + 1 else value - 1)
    | other => other
  writeTarget it env target after
  return if isPrefix then after else before

def evaluateBinary (env : Env) (op : BinaryOp) (left right : Expr) : M Value := do
  match left with
  | .hiddenName name =>
    match ← it.expression env right with
    | .object ref => return .bool (← ownProperty it ref (← hiddenKey env name)).isSome
    | _ => throwType "invalid 'in' operand"
  | left =>
    let first ← it.expression env left
    let second ← it.expression env right
    binary it op first second

/-- Whether an operator needs its second operand. -/
def LogicalOp.needsSecond (op : LogicalOp) (first : Value) : Bool :=
  match op with
  | .and => first.isTruthy
  | .or => !first.isTruthy
  | .coalesce => first.isNullish

def evaluateLogical (env : Env) (op : LogicalOp) (left right : Expr) : M Value := do
  let first ← it.expression env left
  if op.needsSecond first then it.expression env right else return first

def evaluateConditional (env : Env) (test yes no : Expr) : M Value := do
  if (← it.expression env test).isTruthy then it.expression env yes else it.expression env no

def evaluateSequence (env : Env) (first second : Expr) : M Value := do
  let _ ← it.expression env first
  it.expression env second

/-! ### Assignments -/

def isPattern : Expr → Bool
  | .array _ | .object _ => true
  | _ => false

def evaluateAssign (env : Env) (target value : Expr) : M Value := do
  if isPattern target then
    let value ← it.expression env value
    it.assign env false target value
    return value
  else
    let reference ← evaluateTarget it env target
    let value ← evaluateNamed it env (targetName target) value
    writeTarget it env reference value
    return value

def evaluateCompound (env : Env) (op : BinaryOp) (target value : Expr) : M Value := do
  let reference ← evaluateTarget it env target
  let before ← readTarget it env reference
  let after ← binary it op before (← it.expression env value)
  writeTarget it env reference after
  return after

def evaluateLogicalAssign (env : Env) (op : LogicalOp) (target value : Expr) : M Value := do
  let reference ← evaluateTarget it env target
  let before ← readTarget it env reference
  if op.needsSecond before then
    let after ← evaluateNamed it env (targetName target) value
    writeTarget it env reference after
    return after
  else return before

/-! ### Waiting -/

/-- Waits for a value, which never comes: what follows is never reached. -/
def evaluateAwait (env : Env) (operand : Expr) : M Value := do
  let value ← it.expression env operand
  match value with
  | .object ref =>
    match (← getObject ref).kind with
    | .promise => let _ ← getProperty it ref "constructor"
    | _ => askThen it value
  | _ => pure ()
  throw .suspended

/-! ### All forms -/

def evaluateMemberOf (env : Env) (object key : Expr) : M Value := do
  let base ← it.expression env object
  match key with
  | .literal (.text units) => getOf it base (.ofUnits units)
  | key => readMember it base (← evaluateKey it env key)

def evaluateUnary (env : Env) (op : UnaryOp) (operand : Expr) : M Value := do
  unary it op (← it.expression env operand)

def evaluateRegex (body flags : Units) : M Value := do
  match Pattern.compile body flags with
  | .ok pattern => newRegex pattern
  | .error message => throwNew .grammar (Units.ofString message)

/-- Evaluates an expression. -/
def evaluate (env : Env) (expr : Expr) : M Value :=
  match expr with
  | .literal value => return value
  | .name name => readName it env name
  | .this => readThis env
  | .member object key => evaluateMemberOf it env object key
  | .call callee arguments => evaluateCall it env callee arguments
  | .binary op left right => evaluateBinary it env op left right
  | .assign target value => evaluateAssign it env target value
  | .group inner => it.expression env inner
  | .logical op left right => evaluateLogical it env op left right
  | .conditional test yes no => evaluateConditional it env test yes no
  | .update increment isPrefix target => evaluateUpdate it env increment isPrefix target
  | .unary op operand => evaluateUnary it env op operand
  | .compound op target value => evaluateCompound it env op target value
  | .logicalAssign op target value => evaluateLogicalAssign it env op target value
  | .sequence first second => evaluateSequence it env first second
  | .array items => evaluateArray it env items
  | .object members => evaluateObject it env members
  | .function code => return .object (← makeFunction env code none none)
  | .classOf definition => evaluateClass it env definition
  | .construct callee arguments => evaluateConstruct it env callee arguments
  | .typeOf operand => evaluateTypeOf it env operand
  | .delete operand => evaluateDelete it env operand
  | .template pieces values => joinTemplate it env pieces values
  | .tagged site tag cooked raw values => evaluateTagged it env site tag cooked raw values
  | .regex body flags => evaluateRegex body flags
  | .superMember key => do readSuper it env (← evaluateKey it env key)
  | .superCall arguments => do callSuper it env (← evaluateArguments it env arguments)
  | .optional operand => do
    let value ← it.expression env operand
    orSkip value
    return value
  | .chain whole => evaluateChain .undefined (it.expression env whole)
  | .newTarget => return (← getFrame env.frame).newTarget
  | .await operand => evaluateAwait it env operand
  | .yield _ operand => evaluateAwait it env operand
  | .method function _ => return function
  | .hole | .spread _ | .property .. | .memberFunction .. | .hiddenName _ => return .undefined

end Fingerprint.Script
