import Fingerprint.Script.Execution
import Fingerprint.Script.Pause

/-!
Generators: functions that pause in the middle and go on later.

The parts of a generator in which it can pause are evaluated step by step, and what is left to be
done around the current part is kept as a list, the innermost first. Parts that do not pause are
evaluated as a whole. A generator that has paused is such a list.
-/

namespace Fingerprint.Script

/-- Where the evaluation of a generator is. -/
inductive Progress where
  | expression (env : Env) (expr : Expr)
  | statement (env : Env) (statement : Stmt)
  | assigning (env : Env) (isDeclaration : Bool) (pattern : Expr) (value : Value)
  | value (value : Value)
  | ending (ending : Ending)
  /-- The chain around it ends. -/
  | skipping

/-- Where the evaluation is, and what is left to be done around it. -/
abbrev Course := Progress × List Pending

/-- Why the evaluation of a generator stops. -/
inductive Stop where
  /-- It hands out a value, or an object with a value that it got from another iterator. -/
  | paused (value : Value) (isResult : Bool) (rest : List Pending)
  | done (ending : Ending)

namespace Course

def ofValue (value : Value) (rest : List Pending) : M (Course ⊕ Stop) :=
  return .inl (.value value, rest)

def ofFlow (flow : Flow) (rest : List Pending) : M (Course ⊕ Stop) :=
  return .inl (.ending (.flow flow), rest)

def ofExpression (env : Env) (expr : Expr) (rest : List Pending) : M (Course ⊕ Stop) :=
  return .inl (.expression env expr, rest)

def ofStatement (env : Env) (statement : Stmt) (rest : List Pending) : M (Course ⊕ Stop) :=
  return .inl (.statement env statement, rest)

variable (it : Interpreter)

/-! ### Expressions -/

/-- Evaluates the next operand of an expression, or the expression if none of the operands
pauses. -/
def ofForm (env : Env) (form : Expr) (rest : List Pending) : M (Course ⊕ Stop) := do
  match form.pendingCallee?, form.unsettled? with
  | some callee, unsettled =>
    match callee.pauses, unsettled with
    | true, some (place, operand) =>
      match operand with
      | .spread inner => ofExpression env inner (.operand env form place :: rest)
      | operand => ofExpression env operand (.operand env form place :: rest)
    | _, _ =>
      let (function, this) ← evaluateCallee it env callee
      ofExpression env (form.withCallee function this) rest
  | none, some (place, .spread inner) => ofExpression env inner (.operand env form place :: rest)
  | none, some (place, operand) => ofExpression env operand (.operand env form place :: rest)
  | none, none => ofValue (← it.expression env form) rest

/-- Puts the value of an operand into an expression. -/
def settleOperand (env : Env) (form : Expr) (place : Nat) (value : Value) (rest : List Pending) :
    M (Course ⊕ Stop) := do
  match form.operands[place]? with
  | some (.spread _) =>
    let items ← newArray (← listOf it value)
    ofExpression env (form.settle place (.spread (.literal (.object items)))) rest
  | _ => ofExpression env (form.settle place (.literal value)) rest

/-- Evaluates the members of an object literal from some member on. -/
def ofMembers (env : Env) (object : Ref) (rest : List Pending) : List Expr → M (Course ⊕ Stop)
  | [] => ofValue (.object object) rest
  | member :: members => do
    match member.pauses, member with
    | true, .spread inner => ofExpression env inner (.memberSpread env object members :: rest)
    | true, .property key value =>
      if key.pauses then ofExpression env key (.memberKey env object value members :: rest)
      else
        let key ← match key with
          | .literal value => pure (.literal value)
          | key => pure (.group (.literal (← evaluateKey it env key).toValue))
        ofExpression env value (.memberValue env object key members :: rest)
    | _, _ =>
      evaluateMember it env object member
      ofMembers env object rest members

/-- Evaluates an assignment that also reads its target. -/
def ofUpdate (env : Env) (form target : Expr) (rest : List Pending)
    (next : Value → M (Course ⊕ Stop)) : M (Course ⊕ Stop) := do
  match form.unsettled? with
  | some _ => ofForm it env form rest
  | none => next (← readTarget it env (← evaluateTarget it env target))

/-- Evaluates an expression that pauses. -/
def ofPausing (env : Env) (expr : Expr) (rest : List Pending) : M (Course ⊕ Stop) := do
  match expr with
  | .yield false operand => ofExpression env operand (.yielding :: rest)
  | .yield true operand => ofExpression env operand (.delegate :: rest)
  | .group inner => ofExpression env inner rest
  | .conditional test yes no => ofExpression env test (.branch env yes no :: rest)
  | .logical op left right => ofExpression env left (.logical env op right :: rest)
  | .sequence first second => ofExpression env first (.second env second :: rest)
  | .chain whole => ofExpression env whole (.chainEnd :: rest)
  | .optional operand => ofExpression env operand (.orSkip :: rest)
  | .object members => ofMembers it env (← newObject) rest members
  | .assign target value =>
    if isPattern target then ofExpression env value (.pattern env false target :: rest)
    else ofForm it env expr rest
  | .compound op target value =>
    ofUpdate it env expr target rest fun before =>
      ofExpression env value (.compound env op target before :: rest)
  | .logicalAssign op target value =>
    ofUpdate it env expr target rest fun before =>
      if op.needsSecond before then ofExpression env value (.store env target :: rest)
      else ofValue before rest
  | form => ofForm it env form rest

/-! ### Patterns -/

/-- Gives items to the parts of a pattern from some part on. -/
def ofParts (env : Env) (isDeclaration : Bool) (items : Items) (parts : List Expr) (place : Nat)
    (rest : List Pending) : M (Course ⊕ Stop) := do
  match parts with
  | [] =>
    closeItems it items
    ofValue .undefined rest
  | .spread target :: _ =>
    let found ← repeatLoop ((#[] : Array Value), place) fun (found, place) => do
      match ← nextItem it items place with
      | some item => return .inl (found.push item, place + 1)
      | none => return .inr found
    return .inl (.assigning env isDeclaration target (.object (← newArray found)), rest)
  | part :: parts =>
    match ← nextItem it items place with
    | some item =>
      return .inl (.assigning env isDeclaration part item,
        .arrayPattern env isDeclaration items parts (place + 1) :: rest)
    | none =>
      let nothing := Items.array (← newArray #[])
      return .inl (.assigning env isDeclaration part .undefined,
        .arrayPattern env isDeclaration nothing parts 0 :: rest)

/-- Gives the members of a value to the parts of a pattern from some part on. -/
def ofFields (env : Env) (isDeclaration : Bool) (value : Value) (parts : List Expr)
    (taken : List Key) (rest : List Pending) : M (Course ⊕ Stop) := do
  match parts with
  | .property key target :: parts =>
    let key ← evaluateKey it env key
    return .inl (.assigning env isDeclaration target (← getOf it value key),
      .objectPattern env isDeclaration value parts (key :: taken) :: rest)
  | .spread target :: _ =>
    return .inl (.assigning env isDeclaration target (← copyWithout it value taken), rest)
  | _ => ofValue .undefined rest

/-- Gives the parts of a value to a pattern that pauses. -/
def ofPattern (env : Env) (isDeclaration : Bool) (pattern : Expr) (value : Value)
    (rest : List Pending) : M (Course ⊕ Stop) := do
  match pattern with
  | .group inner => return .inl (.assigning env isDeclaration inner value, rest)
  | .assign target standard =>
    if value.isUndefined then ofExpression env standard (.pattern env isDeclaration target :: rest)
    else return .inl (.assigning env isDeclaration target value, rest)
  | .array parts => ofParts it env isDeclaration (← openItems it value) parts 0 rest
  | .object parts =>
    if value.isNullish then throwType "Cannot convert undefined or null to object"
    ofFields it env isDeclaration value parts [] rest
  | target => ofExpression env (.assign target (.literal value)) rest

/-! ### Statements -/

def ofStatements (env : Env) (statements : List Stmt) (rest : List Pending) : M (Course ⊕ Stop) :=
  match statements with
  | [] => ofFlow .normal rest
  | statement :: statements => ofStatement env statement (.statements env statements :: rest)

/-- Executes a declaration from some assignment on. -/
def ofDeclaration (env : Env) (isDeclaration : Bool) (rest : List Pending) :
    List Expr → M (Course ⊕ Stop)
  | [] => ofFlow .normal rest
  | .assign target value :: others =>
    if value.pauses then
      ofExpression env value (.declare env isDeclaration target others :: rest)
    else do
      let value ← evaluateNamed it env (targetName target) value
      return .inl (.assigning env isDeclaration target value,
        .declared env isDeclaration others :: rest)
  | target :: others =>
    if isDeclaration then
      return .inl (.assigning env true target .undefined, .declared env true others :: rest)
    else ofDeclaration env isDeclaration rest others

/-- A scope for the names of a block, with its functions. -/
def enterBlock (env : Env) (declarations : Declarations) : M Env := do
  if declarations.isEmpty then return env
  let functions ← declarations.functions.mapM functionName
  let bindings := addMissing #[] (some .undefined) functions
  let scope ← pushScope env.scope (bindings ++ declaredBindings declarations.names) none
  let env := { env with scope := scope }
  declareFunctions env declarations.functions
  return env

/-- Evaluates the test of a loop, if it has one. -/
def ofTest (env : Env) (labels : List String) (hasNames : Bool) (test step : Option Expr)
    (body : Stmt)
    (rest : List Pending) : M (Course ⊕ Stop) :=
  match test with
  | some expr => ofExpression env expr (.loopTest env labels hasNames test step body :: rest)
  | none => ofStatement env body (.loopBody env labels hasNames test step body :: rest)

/-- Begins a turn of a loop with an item. -/
def ofItem (env : Env) (head : HeadKind) (target : Expr) (body : Stmt) (item : Value)
    (rest : List Pending) : M (Course ⊕ Stop) := do
  match head with
  | .lexical names =>
    let env := { env with scope := ← pushScope env.scope (declaredBindings names) none }
    return .inl (.assigning env true target item, .turn env body :: rest)
  | _ => return .inl (.assigning env false target item, .turn env body :: rest)

/-- Executes the next turn of a loop over items. -/
def ofItems (env : Env) (labels : List String) (head : HeadKind) (target : Expr) (body : Stmt)
    (items : Items) (place : Nat) (rest : List Pending) : M (Course ⊕ Stop) := do
  match ← nextItem it items place with
  | some item =>
    ofItem env head target body item (.items env labels head target body items (place + 1) :: rest)
  | none => ofFlow .normal rest

/-- Executes the next turn of a loop over names; one that has been removed is passed over. -/
def ofNames (env : Env) (labels : List String) (head : HeadKind) (target : Expr) (body : Stmt)
    (object : Ref) (rest : List Pending) : List Key → M (Course ⊕ Stop)
  | [] => ofFlow .normal rest
  | name :: names => do
    if ← keepsName it object name then
      ofItem env head target body name.toValue
        (.names env labels head target body object names :: rest)
    else ofNames env labels head target body object rest names

/-- Executes the statements of the cases of a switch. -/
def ofCases (env : Env) (rest : List Pending) : List Stmt → M (Course ⊕ Stop)
  | [] => ofFlow .normal rest
  | .case _ body :: others => ofStatements env body (.cases env others :: rest)
  | _ :: others => ofCases env rest others

/-- Looks for the case of a switch that is taken. -/
def ofSwitch (env : Env) (value : Value) (cases : List Stmt) (rest : List Pending) :
    List Stmt → M (Course ⊕ Stop)
  | [] => ofCases env rest (standardCases cases)
  | .case (some test) body :: others =>
    ofExpression env test (.caseTest env value cases (.case (some test) body :: others) :: rest)
  | _ :: others => ofSwitch env value cases rest others

/-- Where the value that a loop goes through is evaluated. -/
def loopedEnv (env : Env) (head : HeadKind) : M Env := do
  match head with
  | .lexical names =>
    return { env with scope := ← pushScope env.scope (declaredBindings names) none }
  | _ => return env

/-- Executes a loop with labels, or another statement. -/
def ofLabelled (env : Env) (labels : List String) (statement : Stmt) (rest : List Pending) :
    M (Course ⊕ Stop) := do
  let rest := if labels.isEmpty then rest else .labels labels :: rest
  match statement with
  | .loop names start test step body =>
    let hasNames := !names.isEmpty
    let env ← if hasNames then do
        pure { env with scope := ← pushScope env.scope (declaredBindings names) none }
      else pure env
    ofStatement env start (.loopStart env labels hasNames test step body :: rest)
  | .whileLoop test body => ofTest env labels false (some test) none body rest
  | .doWhile body test => ofStatement env body (.doBody env labels body test :: rest)
  | .forIn head target object body =>
    ofExpression (← loopedEnv env head) object (.namesOf env labels head target body :: rest)
  | .forOf head target items body =>
    ofExpression (← loopedEnv env head) items (.itemsOf env labels head target body :: rest)
  | other => ofStatement env other rest

/-- Executes a statement that pauses. -/
def ofPausingStatement (env : Env) (statement : Stmt) (rest : List Pending) :
    M (Course ⊕ Stop) := do
  match statement with
  | .expression value => ofExpression env value (.expressionStatement :: rest)
  | .block declarations body => ofStatements (← enterBlock env declarations) body rest
  | .variableDeclaration assignments => ofDeclaration it env false rest assignments
  | .lexical assignments => ofDeclaration it env true rest assignments
  | .conditional test yes no => ofExpression env test (.choice env yes no :: rest)
  | .loop .. | .forIn .. | .forOf .. | .whileLoop .. | .doWhile .. =>
    ofLabelled env [] statement rest
  | .labelled .. =>
    let (labels, body) := withoutLabels statement []
    ofLabelled env labels body rest
  | .ret (some value) => ofExpression env value (.returnValue :: rest)
  | .throw value => ofExpression env value (.throwValue :: rest)
  | .attempt body names parameter handler finalizer =>
    let rest := match finalizer with
      | some finalizer => .finalizer env finalizer :: rest
      | none => rest
    let rest := match handler with
      | some handler =>
        .handler env names parameter handler :: rest
      | none => rest
    ofStatement env body rest
  | .switch value declarations cases =>
    ofExpression env value (.switch env declarations cases :: rest)
  | .withObject object body =>
    inObject env (← it.expression env object) fun env => ofStatement env body rest
  | other => return .inl (.ending (.flow (← it.statement env other)), rest)

/-! ### Values -/

/-- What an iterator has handed out or ended with goes to the one that stands for it. -/
def ofResult (iterator next result : Value) (rest : List Pending)
    (atEnd : Value → M (Course ⊕ Stop)) : M (Course ⊕ Stop) := do
  let .object ref := result | throwType "iterator must return an object"
  if (← getProperty it ref "done").isTruthy then atEnd (← getProperty it ref "value")
  else return .inr (.paused result true (.delegating iterator next :: rest))

/-- Goes on with a value. -/
def afterValue (value : Value) (pending : Pending) (rest : List Pending) : M (Course ⊕ Stop) := do
  match pending with
  | .operand env form place => settleOperand it env form place value rest
  | .branch env yes no => ofExpression env (if value.isTruthy then yes else no) rest
  | .logical env op right =>
    if op.needsSecond value then ofExpression env right rest else ofValue value rest
  | .second env next => ofExpression env next rest
  | .compound env op target before =>
    ofExpression env (.assign target (.literal (← binary it op before value))) rest
  | .store env target => ofExpression env (.assign target (.literal value)) rest
  | .chainEnd => ofValue value rest
  | .orSkip => if value.isNullish then return .inl (.skipping, rest) else ofValue value rest
  | .yielding => return .inr (.paused value false rest)
  | .delegate =>
    let method ← getOf it value WellKnownSymbol.iterator.key
    unless ← isCallable method do throwType "value is not iterable"
    let iterator ← it.call method value #[]
    let .object ref := iterator | throwType "not an object"
    let next ← getProperty it ref "next"
    ofResult it iterator next (← it.call next iterator #[.undefined]) rest (ofValue · rest)
  | .delegating iterator next =>
    ofResult it iterator next (← it.call next iterator #[value]) rest (ofValue · rest)
  | .memberKey env object member members =>
    let key := Expr.group (.literal (← toKey it value).toValue)
    if member.pauses then ofExpression env member (.memberValue env object key members :: rest)
    else
      evaluateMember it env object (.property key member)
      ofMembers it env object rest members
  | .memberValue env object key members =>
    evaluateMember it env object (.property key (.literal value))
    ofMembers it env object rest members
  | .memberSpread env object members =>
    copyProperties it object value
    ofMembers it env object rest members
  | .pattern env isDeclaration pattern =>
    return .inl (.assigning env isDeclaration pattern value, .result value :: rest)
  | .arrayPattern env isDeclaration items parts place =>
    ofParts it env isDeclaration items parts place rest
  | .objectPattern env isDeclaration source parts taken =>
    ofFields it env isDeclaration source parts taken rest
  | .result value => ofValue value rest
  | .expressionStatement => ofFlow .normal rest
  | .declare env isDeclaration target others =>
    return .inl (.assigning env isDeclaration target value,
      .declared env isDeclaration others :: rest)
  | .declared env isDeclaration others => ofDeclaration it env isDeclaration rest others
  | .choice env yes no => ofStatement env (if value.isTruthy then yes else no) rest
  | .loopTest env labels hasNames test step body =>
    if value.isTruthy then
      ofStatement env body (.loopBody env labels hasNames test step body :: rest)
    else ofFlow .normal rest
  | .loopStep env labels hasNames test step body => ofTest env labels hasNames test step body rest
  | .doTest env labels body test =>
    if value.isTruthy then ofStatement env body (.doBody env labels body test :: rest)
    else ofFlow .normal rest
  | .namesOf env labels head target body =>
    if value.isNullish then ofFlow .normal rest
    else
      let object ← toObject value
      let names ← inheritedNames it inheritanceLimit (some object) [] []
      ofNames it env labels head target body object rest names
  | .itemsOf env labels head target body =>
    ofItems it env labels head target body (← openItems it value) 0 rest
  | .turn env body => ofStatement env body rest
  | .returnValue => ofFlow (.returned value) rest
  | .throwValue => throwValue value
  | .switch env declarations cases =>
    ofSwitch (← enterBlock env declarations) value cases rest cases
  | .caseTest env subject cases others =>
    if subject.same value then ofCases env rest others
    else ofSwitch env subject cases rest (others.drop 1)
  | _ => ofValue value rest

/-! ### Endings -/

/-- Closes items that are no longer needed because of an error, which counts more. -/
def closeQuietly (items : Items) : M Unit := do
  try closeItems it items
  catch
    | .thrown _ => pure ()
    | abrupt => throw abrupt

/-- Goes on with a loop whose body has ended, or leaves it. -/
def afterTurn (labels : List String) (flow : Flow) (rest : List Pending)
    (again : M (Course ⊕ Stop)) : M (Course ⊕ Stop) :=
  match turnAfter labels flow with
  | .again => again
  | .leave flow => ofFlow flow rest

/-- Goes on with a statement that has ended other than by an error. -/
def afterFlow (flow : Flow) (pending : Pending) (rest : List Pending) : M (Course ⊕ Stop) := do
  match pending with
  | .statements env statements =>
    match flow with
    | .normal => ofStatements env statements rest
    | flow => ofFlow flow rest
  | .loopStart env labels hasNames test step body => ofTest env labels hasNames test step body rest
  | .loopBody env labels hasNames test step body =>
    afterTurn labels flow rest do
      let env ← if hasNames then do pure { env with scope := ← nextScope env.scope } else pure env
      match step with
      | some expr => ofExpression env expr (.loopStep env labels hasNames test step body :: rest)
      | none => ofTest env labels hasNames test step body rest
  | .doBody env labels body test =>
    afterTurn labels flow rest (ofExpression env test (.doTest env labels body test :: rest))
  | .names env labels head target body object names =>
    afterTurn labels flow rest (ofNames it env labels head target body object rest names)
  | .items env labels head target body items place =>
    match turnAfter labels flow with
    | .again => ofItems it env labels head target body items place rest
    | .leave flow =>
      closeItems it items
      ofFlow flow rest
  | .arrayPattern _ _ items _ _ =>
    closeItems it items
    ofFlow flow rest
  | .finalizer env finalizer => ofStatement env finalizer (.finished (.flow flow) :: rest)
  | .finished ending =>
    match flow with
    | .normal => return .inl (.ending ending, rest)
    | flow => ofFlow flow rest
  | .cases env others =>
    match flow with
    | .normal => ofCases env rest others
    | .broken none => ofFlow .normal rest
    | flow => ofFlow flow rest
  | .labels labels =>
    match flow with
    | .broken (some label) =>
      ofFlow (if labels.contains label then .normal else .broken (some label)) rest
    | flow => ofFlow flow rest
  | _ => ofFlow flow rest

/-- Goes on with an error. -/
def afterError (error : Value) (pending : Pending) (rest : List Pending) : M (Course ⊕ Stop) := do
  match pending with
  | .handler env names parameter handler =>
    match parameter with
    | none => ofStatement env handler rest
    | some target =>
      let env := { env with scope := ← pushScope env.scope (declaredBindings names) none }
      return .inl (.assigning env true target error, .turn env handler :: rest)
  | .finalizer env finalizer => ofStatement env finalizer (.finished (.thrown error) :: rest)
  | .items _ _ _ _ _ items _ | .arrayPattern _ _ items _ _ =>
    closeQuietly it items
    return .inl (.ending (.thrown error), rest)
  | _ => return .inl (.ending (.thrown error), rest)

/-! ### Steps -/

/-- Takes a step. -/
def advance (course : Course) : M (Course ⊕ Stop) := do
  match course with
  | (.expression env expr, rest) =>
    if expr.pauses then ofPausing it env expr rest else ofValue (← it.expression env expr) rest
  | (.statement env statement, rest) =>
    if statement.pauses then ofPausingStatement it env statement rest
    else return .inl (.ending (.flow (← it.statement env statement)), rest)
  | (.assigning env isDeclaration pattern value, rest) =>
    if pattern.pauses then ofPattern it env isDeclaration pattern value rest
    else
      it.assign env isDeclaration pattern value
      ofValue .undefined rest
  | (.value value, pending :: rest) => afterValue it value pending rest
  | (.value value, []) => return .inr (.done (.flow (.returned value)))
  | (.ending (.flow flow), pending :: rest) => afterFlow it flow pending rest
  | (.ending (.thrown error), pending :: rest) => afterError it error pending rest
  | (.ending ending, []) => return .inr (.done ending)
  | (.skipping, .chainEnd :: rest) => ofValue .undefined rest
  | (.skipping, _ :: rest) => return .inl (.skipping, rest)
  | (.skipping, []) => return .inr (.done (.flow (.returned .undefined)))

/-- What is left to be done around the current step if it fails. -/
def around : Course → List Pending
  | (.value _, rest) | (.ending _, rest) => rest.drop 1
  | (_, rest) => rest

/-- Takes a step; an error goes to what is left to be done. -/
def advanceOrFail (course : Course) : M (Course ⊕ Stop) := do
  try advance it course
  catch
    | .thrown error => return .inl (.ending (.thrown error), course.around)
    | .skipped => return .inl (.skipping, course.around)
    | abrupt => throw abrupt

/-- Goes on until the generator stops. -/
def run (course : Course) : M Stop := repeatLoop course (advanceOrFail it)

end Course

/-! ### Resuming -/

/-- How a generator is made to go on. -/
inductive Resumption where
  | next
  | returning
  | throwing
deriving DecidableEq, Repr

variable (it : Interpreter)

/-- Where a paused generator goes on that has handed its work to another iterator, if that is told
to end. -/
def delegateEnding (resumption : Resumption) (value iterator next : Value) (rest : List Pending) :
    M (Course ⊕ Stop) := do
  match resumption with
  | .throwing =>
    match ← methodOf? it iterator "throw" with
    | some method =>
      Course.ofResult it iterator next (← it.call method iterator #[value]) rest
        (Course.ofValue · rest)
    | none =>
      closeIterator it iterator
      throwType "iterator does not have a throw method"
  | _ =>
    match ← methodOf? it iterator "return" with
    | some method =>
      Course.ofResult it iterator next (← it.call method iterator #[value]) rest fun value =>
        Course.ofFlow (.returned value) rest
    | none => Course.ofFlow (.returned value) rest

/-- Where a paused generator goes on. -/
def resumeCourse (resumption : Resumption) (value : Value) (rest : List Pending) :
    M (Course ⊕ Stop) := do
  match resumption, rest with
  | .next, rest => Course.ofValue value rest
  | resumption, .delegating iterator next :: rest =>
    try delegateEnding it resumption value iterator next rest
    catch
      | .thrown error => return .inl (.ending (.thrown error), rest)
      | abrupt => throw abrupt
  | .returning, rest => Course.ofFlow (.returned value) rest
  | .throwing, rest => return .inl (.ending (.thrown value), rest)

def setGenerator (ref : Ref) (generator : Generator) : M Unit :=
  modifyObject ref fun object => { object with kind := .generator generator }

/-- Lets a generator go on and hands out what it stops with. -/
def runGenerator (ref : Ref) (start : M (Course ⊕ Stop)) : M Value := do
  setGenerator ref .running
  let stop ← match ← start with
    | .inl course => Course.run it course
    | .inr stop => pure stop
  match stop with
  | .paused value isResult rest =>
    setGenerator ref (.paused rest)
    if isResult then return value else iterationResult value false
  | .done ending =>
    setGenerator ref .finished
    match ending with
    | .flow (.returned value) => iterationResult value true
    | .flow _ => iterationResult .undefined true
    | .thrown error => throwValue error

/-- Makes a generator go on. -/
def resumeGenerator (ref : Ref) (generator : Generator) (resumption : Resumption) (value : Value) :
    M Value := do
  match generator, resumption with
  | .running, _ => throwType "cannot invoke a running generator"
  | .paused rest, resumption => runGenerator it ref (resumeCourse it resumption value rest)
  | .waiting code env, .next =>
    let body := (← codeOf code).body
    runGenerator it ref (Course.ofStatements env body [])
  | _, .next => iterationResult .undefined true
  | _, .returning =>
    setGenerator ref .finished
    iterationResult value true
  | _, .throwing =>
    setGenerator ref .finished
    throwValue value

end Fingerprint.Script
