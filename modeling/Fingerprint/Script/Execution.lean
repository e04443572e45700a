import Fingerprint.Script.Evaluation

/-!
The execution of statements.
-/

namespace Fingerprint.Script

/-- Keeps the value of a statement, where such values count. -/
def keepValue (env : Env) (value : Value) : M Unit := do
  if env.keepsValues then modify fun machine => { machine with completion := value }

variable (it : Interpreter)

/-! ### Declarations -/

/-- Executes the assignments of a declaration of variables. -/
def executeVariables (env : Env) : List Expr → M Unit
  | [] => return
  | .assign target value :: rest => do
    it.assign env false target (← evaluateNamed it env (targetName target) value)
    executeVariables env rest
  | _ :: rest => executeVariables env rest

/-- Gives names of a block their first values. -/
def executeLexical (env : Env) : List Expr → M Unit
  | [] => return
  | .assign target value :: rest => do
    it.assign env true target (← evaluateNamed it env (targetName target) value)
    executeLexical env rest
  | target :: rest => do
    it.assign env true target .undefined
    executeLexical env rest

/-- Evaluates something among the names of a block. -/
@[inline] def inBlock {α : Type} (env : Env) (declarations : Declarations) (body : Env → M α) :
    M α := do
  if declarations.isEmpty then body env
  else
    let functions ← declarations.functions.mapM functionName
    let bindings := addMissing #[] (some .undefined) functions
    inScope env.scope (bindings ++ declaredBindings declarations.names) fun scope => do
      let env := { env with scope := scope }
      declareFunctions env declarations.functions
      body env

def executeBlock (env : Env) (declarations : Declarations) (body : List Stmt) : M Flow :=
  inBlock env declarations fun env => runStatements it env body

/-! ### Loops -/

/-- What a loop does after its body. -/
inductive Turn where
  | again
  | leave (flow : Flow)

/-- What a loop with some labels does when its body has ended. -/
def turnAfter (labels : List String) : Flow → Turn
  | .normal | .continued none => .again
  | .continued (some label) =>
    if labels.contains label then .again else .leave (.continued (some label))
  | .broken none => .leave .normal
  | flow => .leave flow

/-- Executes the body of a loop, and tells whether the loop goes on. -/
@[inline] def executeTurn (env : Env) (labels : List String) (body : Stmt) : M Turn :=
  return turnAfter labels (← it.statement env body)

def executeWhile (env : Env) (labels : List String) (test : Expr) (body : Stmt) : M Flow :=
  repeatLoop () fun _ => do
    if (← it.expression env test).isTruthy then
      match ← executeTurn it env labels body with
      | .again => return .inl ()
      | .leave flow => return .inr flow
    else return .inr .normal

def executeDoWhile (env : Env) (labels : List String) (body : Stmt) (test : Expr) : M Flow :=
  repeatLoop () fun _ => do
    match ← executeTurn it env labels body with
    | .again =>
      if (← it.expression env test).isTruthy then return .inl () else return .inr .normal
    | .leave flow => return .inr flow

/-- The scope of the next turn of a loop: a copy if a function may refer to the current one. -/
def nextScope (scope : Nat) : M Nat := do
  let machine ← get
  if machine.heldScopes ≤ scope then return scope
  else
    let current := machine.scopes[scope]?.getD default
    modify fun machine => { machine with scopes := machine.scopes.push current }
    return machine.scopes.size

/-- Executes the turns of a loop with a test. -/
def executeTurns (env : Env) (labels : List String) (hasNames : Bool) (test step : Option Expr)
    (body : Stmt) : M Flow :=
  repeatLoop env.scope fun scope => do
    let env := { env with scope := scope }
    let goesOn ← match test with
      | some test => do pure (← it.expression env test).isTruthy
      | none => pure true
    if goesOn then
      match ← executeTurn it env labels body with
      | .again =>
        let scope ← if hasNames then nextScope scope else pure scope
        match step with
        | some step => let _ ← it.expression { env with scope := scope } step
        | none => pure ()
        return .inl scope
      | .leave flow => return .inr flow
    else return .inr .normal

def executeLoop (env : Env) (labels : List String) (names : List Declared) (start : Stmt)
    (test step : Option Expr) (body : Stmt) : M Flow := do
  if names.isEmpty then
    let _ ← it.statement env start
    executeTurns it env labels false test step body
  else
    inScope env.scope (declaredBindings names) fun scope => do
      let env := { env with scope := scope }
      let _ ← it.statement env start
      executeTurns it env labels true test step body

/-- Executes the body of a loop with an item. -/
def executeItem (env : Env) (labels : List String) (head : HeadKind) (target : Expr) (body : Stmt)
    (item : Value) : M Turn := do
  match head with
  | .lexical names =>
    inScope env.scope (declaredBindings names) fun scope => do
      let env := { env with scope := scope }
      it.assign env true target item
      executeTurn it env labels body
  | _ =>
    it.assign env false target item
    executeTurn it env labels body

/-- The value that a loop goes through. The names of the loop hide others there already, but have no
values yet. -/
def evaluateLooped (env : Env) (head : HeadKind) (looped : Expr) : M Value :=
  match head with
  | .lexical names =>
    inScope env.scope (declaredBindings names) fun scope =>
      it.expression { env with scope := scope } looped
  | _ => it.expression env looped

def executeForOf (env : Env) (labels : List String) (head : HeadKind) (target items : Expr)
    (body : Stmt) : M Flow := do
  eachItem it (← evaluateLooped it env head items) () (fun _ item => do
    match ← executeItem it env labels head target body item with
    | .again => return .inl ()
    | .leave flow => return .inr flow) (fun _ => return .normal)

/-- The names of the listed properties that an object has or inherits; a name that is not listed
hides one behind it. -/
def inheritedNames : Nat → Option Ref → List Key → List Key → M (List Key)
  | 0, _, _, found => return found.reverse
  | _ + 1, none, _, found => return found.reverse
  | depth + 1, some ref, seen, found => do
    let names := (← ownKeys it ref).filter fun key => key.isText && !seen.contains key
    let listed ← names.filterM (isListed it ref)
    inheritedNames depth (← prototypeOf it ref) (names ++ seen) (listed.reverse ++ found)

/-- Whether an object still has a name when the turn comes to it. Proxies are not asked. -/
def keepsName (object : Ref) (name : Key) : M Bool := do
  if ← isProxy object then return true else hasProperty it object name

/-- Executes the turns of a loop over names; one that has been removed is passed over. -/
def executeNames (env : Env) (labels : List String) (head : HeadKind) (target : Expr) (body : Stmt)
    (object : Ref) (names : List Key) : M Flow :=
  repeatLoop names fun names => do
    match names with
    | [] => return .inr .normal
    | name :: rest =>
      if ← keepsName it object name then
        match ← executeItem it env labels head target body name.toValue with
        | .again => return .inl rest
        | .leave flow => return .inr flow
      else return .inl rest

def executeForIn (env : Env) (labels : List String) (head : HeadKind) (target object : Expr)
    (body : Stmt) : M Flow := do
  let value ← evaluateLooped it env head object
  if value.isNullish then return .normal
  let object ← toObject value
  let names ← inheritedNames it inheritanceLimit (some object) [] []
  executeNames it env labels head target body object names

/-! ### Handlers -/

/-- Executes the handler of an error. -/
def executeHandler (env : Env) (names : List Declared) (parameter : Option Expr) (handler : Stmt)
    (error : Value) : M Flow := do
  match parameter with
  | none => it.statement env handler
  | some target =>
    inScope env.scope (declaredBindings names) fun scope => do
      let env := { env with scope := scope }
      it.assign env true target error
      it.statement env handler

def executeGuarded (env : Env) (body : Stmt) (names : List Declared) (parameter : Option Expr)
    (handler : Option Stmt) : M Flow := do
  match handler with
  | none => it.statement env body
  | some handler =>
    let outcome : Ending ← do
      try
        pure (.flow (← it.statement env body))
      catch
        | .thrown error => pure (.thrown error)
        | abrupt => throw abrupt
    match outcome with
    | .flow flow => return flow
    | .thrown error => executeHandler it env names parameter handler error

/-- Executes the last part of a statement, whatever came before; it counts if it does not end
normally. -/
def executeFinally (env : Env) (guarded : M Flow) (finalizer : Stmt) : M Flow := do
  let outcome : Ending ← do
    try
      pure (.flow (← guarded))
    catch
      | .thrown error => pure (.thrown error)
      | abrupt => throw abrupt
  let value := (← get).completion
  keepValue env .undefined
  match ← it.statement env finalizer with
  | .normal =>
    keepValue env value
    match outcome with
    | .flow flow => return flow
    | .thrown error => throwValue error
  | flow => return flow

/-! ### Choices -/

/-- The cases of a switch from the one on that is taken. -/
def takenCases (env : Env) (value : Value) : List Stmt → M (Option (List Stmt))
  | [] => return none
  | .case (some test) body :: rest => do
    if value.same (← it.expression env test) then return some (.case (some test) body :: rest)
    else takenCases env value rest
  | _ :: rest => takenCases env value rest

/-- The cases from the default on. -/
def standardCases : List Stmt → List Stmt
  | [] => []
  | .case none body :: rest => .case none body :: rest
  | _ :: rest => standardCases rest

def executeCases (env : Env) : List Stmt → M Flow
  | [] => return .normal
  | .case _ body :: rest => do
    match ← runStatements it env body with
    | .normal => executeCases env rest
    | .broken none => return .normal
    | flow => return flow
  | _ :: rest => executeCases env rest

def executeSwitch (env : Env) (value : Expr) (declarations : Declarations) (cases : List Stmt) :
    M Flow := do
  let value ← it.expression env value
  inBlock env declarations fun env => do
    let taken ← takenCases it env value cases
    executeCases it env (taken.getD (standardCases cases))

/-! ### All forms -/

/-- The labels in front of a statement, and the statement. -/
def withoutLabels : Stmt → List String → List String × Stmt
  | .labelled label body, labels => withoutLabels body (label :: labels)
  | body, labels => (labels, body)

/-- Executes a statement with labels, of which loops know. -/
def executeLabelled (env : Env) (labels : List String) (statement : Stmt) : M Flow := do
  let flow ← match statement with
    | .loop names start test step body => do
      keepValue env .undefined
      executeLoop it env labels names start test step body
    | .forIn head target object body => do
      keepValue env .undefined
      executeForIn it env labels head target object body
    | .forOf head target items body => do
      keepValue env .undefined
      executeForOf it env labels head target items body
    | .whileLoop test body => do
      keepValue env .undefined
      executeWhile it env labels test body
    | .doWhile body test => do
      keepValue env .undefined
      executeDoWhile it env labels body test
    | other => it.statement env other
  match flow with
  | .broken (some label) =>
    return if labels.contains label then .normal else .broken (some label)
  | flow => return flow

def executeExpression (env : Env) (value : Expr) : M Flow := do
  keepValue env (← it.expression env value)
  return .normal

def executeConditional (env : Env) (test : Expr) (yes no : Stmt) : M Flow := do
  keepValue env .undefined
  if (← it.expression env test).isTruthy then it.statement env yes else it.statement env no

def executeReturn (env : Env) (value : Option Expr) : M Flow := do
  match value with
  | some value => return .returned (← it.expression env value)
  | none => return .returned .undefined

def executeThrow (env : Env) (value : Expr) : M Flow := do
  throwValue (← it.expression env value)

/-- Evaluates something among the properties of an object. -/
def inObject {α : Type} (env : Env) (value : Value) (body : Env → M α) : M α := do
  let object ← toObject value
  body { env with scope := ← pushScope env.scope #[] (some object) }

def executeWith (env : Env) (object : Expr) (body : Stmt) : M Flow := do
  keepValue env .undefined
  inObject env (← it.expression env object) fun env => it.statement env body

/-- Gives the function of a block to the variable of its name. -/
def executeHoist (env : Env) (name : String) : M Flow := do
  match ← bindingOf? env.scope name with
  | some (scope, place) =>
    let value := (← getBinding (scope, place)).value
    match (← get).scopes[scope]?.bind (·.outer), value with
    | some outer, some value => writeName it { env with scope := outer } name value
    | _, _ => pure ()
  | none => pure ()
  return .normal

/-- Asks for the first item of a loop that waits for it. -/
def executeForAwait (env : Env) (items : Expr) : M Flow := do
  let value ← it.expression env items
  let method ← match ← methodOf? it value WellKnownSymbol.asyncIterator.key with
    | some method => pure method
    | none => getOf it value WellKnownSymbol.iterator.key
  unless ← isCallable method do throwType "value is not iterable"
  let iterator ← it.call method value #[]
  let .object ref := iterator | throwType "not an object"
  let _ ← it.call (← getProperty it ref "next") iterator #[]
  throw .suspended

def executeClass (env : Env) (name : String) (definition : ClassRef) : M Flow := do
  initializeName it env name (← evaluateClass it env definition)
  return .normal

/-- Executes a statement. -/
def execute (env : Env) (statement : Stmt) : M Flow :=
  match statement with
  | .expression value => executeExpression it env value
  | .block declarations body => executeBlock it env declarations body
  | .conditional test yes no => executeConditional it env test yes no
  | .ret value => executeReturn it env value
  | .variableDeclaration assignments => do
    executeVariables it env assignments
    return .normal
  | .lexical assignments => do
    executeLexical it env assignments
    return .normal
  | .loop .. | .forIn .. | .forOf .. | .whileLoop .. | .doWhile .. =>
    executeLabelled it env [] statement
  | .labelled .. =>
    let (labels, body) := withoutLabels statement []
    executeLabelled it env labels body
  | .breakTo label => return .broken label
  | .continueTo label => return .continued label
  | .throw value => executeThrow it env value
  | .attempt body names parameter handler finalizer => do
    keepValue env .undefined
    let guarded := executeGuarded it env body names parameter handler
    match finalizer with
    | none => guarded
    | some finalizer => executeFinally it env guarded finalizer
  | .switch value declarations cases => do
    keepValue env .undefined
    executeSwitch it env value declarations cases
  | .classDeclaration name definition => executeClass it env name definition
  | .forAwait items => executeForAwait it env items
  | .withObject object body => executeWith it env object body
  | .hoist name => executeHoist it env name
  | .empty | .case .. => return .normal

end Fingerprint.Script
