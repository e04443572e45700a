import Fingerprint.Script.Function
import Fingerprint.Script.Parser.Statement

/-!
Whole scripts: the names that they declare for all scripts, and their evaluation.
-/

namespace Fingerprint.Script

/-- The place of the scope with the names of all scripts. -/
def globalScope : Nat := 0

/-- The place of the frame of code outside functions. -/
def globalFrame : Nat := 0

def globalEnv (isStrict : Bool) : Env := ⟨globalScope, globalFrame, globalScope, isStrict, true⟩

def throwRedeclared {α : Type} (name : String) : M α :=
  throwNamed .grammar "redeclaration of '" name "'"

/-- Whether scripts have declared a name other than as a variable. -/
def isGlobalLexical (name : String) : M Bool := do
  return ((← get).scopes[globalScope]?).any fun scope => scope.bindings.any (·.name == name)

variable (it : Interpreter)

/-- Refuses names that scripts before have declared otherwise. -/
def checkLexical (name : String) : M Unit := do
  if ← isGlobalLexical name then throwRedeclared name
  match ← ownProperty it Intrinsic.global.ref (.ofUnits name) with
  | some property => if !property.configurable then throwRedeclared name
  | none => return

def throwFixed {α : Type} (name : String) : M α :=
  throwNamed .type "cannot define variable '" name "'"

def isGlobalExtensible : M Bool := isExtensible it Intrinsic.global.ref

def checkVariable (name : String) : M Unit := do
  if ← isGlobalLexical name then throwRedeclared name
  if (← ownProperty it Intrinsic.global.ref (.ofUnits name)).isNone then
    unless ← isGlobalExtensible it do throwFixed name

/-- Whether a property of the global object can become a function. -/
def takesFunction (property : Property) : Bool :=
  property.configurable ||
    match property.content with
    | .data _ writable => writable && property.enumerable
    | .accessor .. => false

def checkFunction (name : String) : M Unit := do
  checkVariable it name
  match ← ownProperty it Intrinsic.global.ref (.ofUnits name) with
  | some property => unless takesFunction property do throwFixed name
  | none => return

/-- Declares a variable as a property of the global object. -/
def addVariable (configurable : Bool) (name : String) : M Unit := do
  if (← ownProperty it Intrinsic.global.ref (.ofUnits name)).isNone then
    putProperty Intrinsic.global.ref (.ofUnits name) ⟨.data .undefined true, true, configurable⟩

/-- Declares a function as a property of the global object. -/
def addFunction (env : Env) (configurable : Bool) (code : CodeRef) : M Unit := do
  let function := Value.object (← makeFunction env code none none)
  let key := Key.ofUnits (← functionName code)
  let fresh : Property := ⟨.data function true, true, configurable⟩
  match ← ownProperty it Intrinsic.global.ref key with
  | some property =>
    putProperty Intrinsic.global.ref key
      (if property.configurable then fresh else { property with content := .data function true })
  | none => putProperty Intrinsic.global.ref key fresh

/-- Declares variables and functions for all scripts; those that evaluated texts declare can be
removed. -/
def declareVariables (env : Env) (program : Program) (configurable : Bool) : M Unit := do
  let functions ← program.declarations.functions.mapM functionName
  functions.forM (checkFunction it)
  program.variableNames.forM (checkVariable it)
  program.declarations.functions.forM (addFunction it env configurable)
  program.variableNames.forM (addVariable it configurable)

/-- Declares the names of a script for it and all scripts after it. -/
def declareGlobals (env : Env) (program : Program) : M Unit := do
  program.declarations.names.forM fun declared => checkLexical it declared.name
  let bindings := declaredBindings program.declarations.names
  declareVariables it env program false
  modify fun machine =>
    { machine with
      scopes := machine.scopes.modify globalScope fun scope =>
        { scope with bindings := scope.bindings ++ bindings } }

/-- Runs the statements of a script; its value is that of the last one that has one. -/
def runProgram (env : Env) (body : List Stmt) : M Value := do
  let outer := (← get).completion
  modify fun machine => { machine with completion := .undefined }
  try
    let _ ← runStatements it env body
    let value := (← get).completion
    modify fun machine => { machine with completion := outer }
    return value
  catch abrupt =>
    modify fun machine => { machine with completion := outer }
    throw abrupt

/-- Reads a script. -/
def readProgram (source : String) (context : ReadContext) (kind : BlockKind) : M Program := do
  match Program.parse source (← get).library context kind with
  | .ok (program, library) =>
    modify fun machine => { machine with library := library }
    return program
  | .error fault => throwNew .grammar fault.message

/-- Refuses hidden names that no class around declares. -/
def checkHidden (env : Env) (names : List String) : M Unit :=
  names.forM fun name => do
    if (← bindingOf? env.scope (hiddenBinding name)).isNone then
      throwNamed .grammar "undefined private field '" (hiddenBinding name) "'"

/-- Evaluates a script. -/
def runScript (source : String) : M Value := do
  let env := globalEnv true
  let program ← readProgram source (Reading.topContext true) .script
  checkHidden env program.hiddenNames
  poll
  declareGlobals it env program
  runProgram it env program.body

/-! ### Evaluated texts -/

/-- What a text that is evaluated somewhere can refer to. -/
def contextOf (env : Env) : M ReadContext := do
  let frame ← getFrame env.frame
  let isDerived ← match frame.function with
    | some function =>
      match (← getObject function).kind with
      | .closure closure => pure ((← codeOf closure.code).kind == .derivedConstructor)
      | _ => pure false
    | none => pure false
  return { Reading.topContext env.isStrict with
    allowsNewTarget := frame.function.isSome
    allowsSuper := frame.home.isSome
    allowsSuperCall := isDerived }

/-- Adds variables and functions to those of the function around. -/
def extendScope (env : Env) (program : Program) : M Unit := do
  let functions ← program.declarations.functions.mapM functionName
  modify fun machine =>
    { machine with
      scopes := machine.scopes.modify env.variableScope fun scope =>
        let bindings := addMissing scope.bindings (some .undefined) program.variableNames
        { scope with bindings := addMissing bindings (some .undefined) functions } }
  declareFunctions env program.declarations.functions

/-- Evaluates a text as a part of code. The names that it declares belong to it alone, except for
the variables and functions of a text that is not strict. -/
def evaluateText (env : Env) (text : Units) : M Value := do
  poll
  let program ← readProgram text.toText (← contextOf env) .body
  checkHidden env program.hiddenNames
  let lexical := declaredBindings program.declarations.names
  if program.isStrict then
    let names := addMissing #[] (some .undefined) program.variableNames
    let functions ← program.declarations.functions.mapM functionName
    let names := addMissing names (some .undefined) functions
    inScope env.scope (names ++ lexical) fun scope => do
      let env : Env := ⟨scope, env.frame, scope, true, true⟩
      declareFunctions env program.declarations.functions
      runProgram it env program.body
  else
    inScope env.scope lexical fun scope => do
      let inner : Env := ⟨scope, env.frame, env.variableScope, false, true⟩
      if env.variableScope = globalScope then declareVariables it inner program true
      else extendScope inner program
      runProgram it inner program.body

end Fingerprint.Script
