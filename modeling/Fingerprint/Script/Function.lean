import Fingerprint.Script.Iteration
import Fingerprint.Script.Names

/-!
Functions: how they are made and called.
-/

namespace Fingerprint.Script

/-! ### Making functions -/

/-- The properties that every function has. -/
def functionProperties (name : Units) (length : Nat) : PropertyTable :=
  let locked (value : Value) : Property := ⟨.data value false, false, true⟩
  (PropertyTable.empty.set "length" (locked (.ofNat length))).set "name" (locked (.text name))

/-- The name that a function takes from the key that it is kept under. -/
def keyLabel (key : Key) : M Units := do
  match key with
  | .symbol _ =>
    let text ← describeKey key
    return if text.isEmpty then text else "[" ++ text ++ "]"
  | key => describeKey key

/-- Whether functions of a kind can be used with `new`. -/
def Code.isConstructor (code : Code) : Bool :=
  !code.isAsync && !code.isGenerator &&
    match code.kind with
    | .ordinary | .baseConstructor | .derivedConstructor => true
    | _ => false

/-- Constructors of the library have capitalized names, and nothing else has but the names of time
zones. -/
def Native.isConstructor (native : Native) : Bool :=
  native.name ≠ "" && native.name.front.isUpper && native.name ≠ "UTC"

/-- Whether a value can be used with `new`. -/
def isConstructor (value : Value) : M Bool := do
  match value with
  | .object ref =>
    match (← getObject ref).kind with
    | .closure closure => return (← codeOf closure.code).isConstructor
    | .native native => return native.isConstructor
    | .bound _ _ _ constructs => return constructs
    | .proxy _ _ isConstructor => return isConstructor
    | _ => return false
  | _ => return false

/-- Gives a function an object for what it makes. -/
def addPrototype (function : Ref) : M Unit := do
  let prototype ← newObject
  putProperty prototype "constructor" (.unlisted (.object function))
  putProperty function "prototype" ⟨.data (.object prototype) true, false, false⟩

/-- The object that functions of code inherit from. -/
def Code.parent (code : Code) : Intrinsic :=
  match code.isAsync, code.isGenerator with
  | false, false => .functionPrototype
  | false, true => .generatorFunctionPrototype
  | true, false => .asyncFunctionPrototype
  | true, true => .asyncGeneratorFunctionPrototype

/-- The object that the products of a generator inherit from, unless the function says otherwise. -/
def Code.product (code : Code) : Intrinsic :=
  if code.isAsync then .asyncGeneratorPrototype else .generatorPrototype

/-- The steps that a new function takes. -/
def functionSteps : Nat := 3

/-- Makes a function of code. A name that is given replaces the name in the code. -/
def makeFunction (env : Env) (code : CodeRef) (name : Option Units) (home : Option Ref) :
    M Ref := do
  hold
  spend functionSteps
  let definition ← codeOf code
  let properties := functionProperties (name.getD definition.name) definition.length
  let ref ←
    allocate ⟨some definition.parent.ref, .closure ⟨code, env, home, [], false⟩, properties, true⟩
  if definition.isGenerator then
    let prototype ← allocate (.ofKind (some definition.product.ref) .ordinary)
    putProperty ref "prototype" ⟨.data (.object prototype) true, false, false⟩
  else if definition.kind = .ordinary && !definition.isAsync then addPrototype ref
  return ref

/-! ### Calling functions -/

/-- Adds bindings for names that have none yet. -/
def addMissing (bindings : Array Binding) (value : Option Value) : List String → Array Binding
  | [] => bindings
  | name :: rest =>
    let bindings :=
      if bindings.any (·.name == name) then bindings else bindings.push ⟨name, value, .variable⟩
    addMissing bindings value rest

/-- The bindings of parameters that are plain names. Of parameters of one name the last one
counts. -/
def simpleBindings (arguments : Array Value) : List Expr → Nat → Array Binding → Array Binding
  | .name name :: rest, place, bindings =>
    let value := some (arguments[place]?.getD .undefined)
    let bindings := match bindings.findIdx? (·.name == name) with
      | some index => bindings.setIfInBounds index ⟨name, value, .variable⟩
      | none => bindings.push ⟨name, value, .variable⟩
    simpleBindings arguments rest (place + 1) bindings
  | _, _, bindings => bindings

def parameterBindings (code : Code) (arguments : Array Value) : Array Binding :=
  if code.isSimple then simpleBindings arguments code.parameters 0 #[]
  else (code.parameterNames.map fun name => ⟨name, none, .variable⟩).toArray

def functionName (code : CodeRef) : M String := return (← codeOf code).name.toText

/-- The bindings at the start of a call that the parameters can refer to. -/
def callBindings (function : Ref) (code : Code) (arguments : Array Value) : Array Binding :=
  let bindings := parameterBindings code arguments
  let bindings :=
    if code.usesArguments && !bindings.any (·.name == "arguments") then
      bindings.push ⟨"arguments", some .undefined, .variable⟩
    else bindings
  if code.bindsItself then
    let name := code.name.toText
    if bindings.any (·.name == name) then bindings
    else bindings.push ⟨name, some (.object function), if code.isStrict then .constant else .silent⟩
  else bindings

/-- Bindings with those that the body of a function declares; the name of the function itself gives
way to them. -/
def bodyBindings (code : Code) (bindings : Array Binding) : M (Array Binding) := do
  let functions ← code.declarations.functions.mapM functionName
  let declared := code.declarations.names.map (·.name)
  let isHidden (binding : Binding) : Bool :=
    binding.kind != .variable &&
      (code.variableNames.contains binding.name || functions.contains binding.name ||
        declared.contains binding.name)
  let bindings := if code.bindsItself then bindings.filter (!isHidden ·) else bindings
  let bindings := addMissing bindings (some .undefined) code.variableNames
  let bindings := addMissing bindings (some .undefined) functions
  return bindings ++ declaredBindings code.declarations.names

/-! ### Arguments as an object -/

/-- The place of the binding that each argument is linked to. -/
def linkedPlaces (bindings : Array Binding) : List Expr → List (Option Nat)
  | [] => []
  | .name name :: rest =>
    let isLast := !rest.any fun other => match other with
      | .name other => other == name
      | _ => false
    (if isLast then bindings.findIdx? (·.name == name) else none) :: linkedPlaces bindings rest
  | _ :: rest => none :: linkedPlaces bindings rest

/-- The object that `arguments` stands for. In functions that are not strict its items are linked to
the parameters. -/
def argumentsObject (function : Ref) (code : Code) (arguments : Array Value) (scope : Nat) :
    M Value := do
  let isMapped := !code.isStrict && code.isSimple
  if isMapped then hold
  let bindings := ((← get).scopes[scope]?.map (·.bindings)).getD #[]
  let kind : Kind :=
    if isMapped then
      .mappedArguments scope ((linkedPlaces bindings code.parameters).take arguments.size).toArray
    else .arguments
  let ref ← allocate (.ofKind (some Intrinsic.objectPrototype.ref) kind)
  arguments.toList.zipIdx.forM fun (value, place) => putProperty ref (.index place) (.plain value)
  putProperty ref "length" (.unlisted (.ofNat arguments.size))
  putProperty ref WellKnownSymbol.iterator.key (.unlisted Intrinsic.arrayValues.value)
  if isMapped then putProperty ref "callee" (.unlisted (.object function))
  else
    let refusal := Intrinsic.refusal.value
    putProperty ref "callee" ⟨.accessor refusal refusal, false, false⟩
  return .object ref

/-- Makes the functions that statements declare, and gives them to their names. -/
def declareFunctions (env : Env) : List CodeRef → M Unit
  | [] => return
  | code :: rest => do
    let function ← makeFunction env code none none
    match ← bindingOf? env.scope (← functionName code) with
    | some place => setBinding place (.object function)
    | none => pure ()
    declareFunctions env rest

/-- The value that `this` has in code that is not strict. -/
def sloppyThis (this : Value) : M Value := do
  if this.isNullish then return Intrinsic.global.value
  else
    match this with
    | .object _ => return this
    | other =>
      match prototypeOf? other with
      | some prototype => return .object (← wrap prototype other)
      | none => return other

variable (it : Interpreter)

/-- Gives the arguments of a call to patterns. -/
def bindParameters (env : Env) (parameters : List Expr) (arguments : Array Value) : M Unit := do
  match parameters with
  | [] => return
  | .spread target :: _ => it.assign env true target (.object (← newArray arguments))
  | parameter :: rest =>
    it.assign env true parameter (arguments[0]?.getD .undefined)
    bindParameters env rest (arguments.extract 1 arguments.size)

/-- Asks a value that settles a promise for the method by which it would itself be waited for. -/
def askThen (value : Value) : M Unit := do
  match value with
  | .object ref =>
    try
      let _ ← getProperty it ref "then"
      pure ()
    catch
      | .thrown _ => pure ()
      | abrupt => throw abrupt
  | _ => return

/-- The promise that an asynchronous function returns; nobody waits for its value. -/
def promiseOf (run : M Value) : M Value := do
  try askThen it (← run)
  catch
    | .thrown _ | .suspended => pure ()
    | abrupt => throw abrupt
  return .object (← allocate (.ofKind (some Intrinsic.promisePrototype.ref) .promise))

/-- The object that a call of a generator returns. -/
def newGenerator (function : Ref) (definition : Code) (code : CodeRef) (env : Env) : M Value := do
  hold
  let prototype ← match ← getProperty it function "prototype" with
    | .object ref => pure ref
    | _ => pure definition.product.ref
  let generator : Generator := .waiting code env
  return .object (← allocate (.ofKind (some prototype)
    (if definition.isAsync then .asyncGenerator generator else .generator generator)))

/-- Evaluates the body of a function whose parameters have their values. -/
def runInner (function : Ref) (closure : Closure) (code : Code) (env : Env) : M Value := do
  declareFunctions env code.declarations.functions
  if code.isGenerator then newGenerator it function code closure.code env
  else runBody it env code.body

/-- Gives names of the body of a function the values of the parameters of these names. -/
def inheritValues (parameters bindings : Array Binding) : Array Binding :=
  bindings.map fun binding =>
    match binding.value, parameters.find? (·.name == binding.name) with
    | some _, some parameter => { binding with value := parameter.value }
    | _, _ => binding

/-- Evaluates the code of a function whose frame has been made. Parameters other than plain names
have a scope of their own around the names of the body. -/
def runCode (function : Ref) (closure : Closure) (code : Code) (arguments : Array Value)
    (frame : Nat) : M Value := do
  let outer := callBindings function code arguments
  let bindings ← if code.isSimple then bodyBindings code outer else pure outer
  inScope closure.env.scope bindings fun scope => do
    let env : Env := ⟨scope, frame, scope, code.isStrict, false⟩
    if code.usesArguments then
      match bindings.findIdx? (·.name == "arguments") with
      | some place =>
        if !code.parameterNames.contains "arguments" then
          setBinding (scope, place) (← argumentsObject function code arguments scope)
      | none => pure ()
    if code.isSimple then runInner it function closure code env
    else
      bindParameters it env code.parameters arguments
      let inner ← bodyBindings code #[]
      if inner.isEmpty then runInner it function closure code env
      else
        let current := ((← get).scopes[scope]?.map (·.bindings)).getD #[]
        inScope scope (inheritValues current inner) fun scope =>
          runInner it function closure code { env with scope := scope, variableScope := scope }

/-- Evaluates the code of a function, all of it up to the first wait if the function is
asynchronous. -/
def startCode (function : Ref) (closure : Closure) (code : Code) (arguments : Array Value)
    (frame : Nat) : M Value := do
  if code.isAsync && !code.isGenerator then
    promiseOf it (runCode it function closure code arguments frame)
  else runCode it function closure code arguments frame

/-- Notes the function that is running, and the bytes of the stack that its call takes. -/
@[inline] def asCaller {α : Type} (function : Ref) (bytes : Nat) (run : M α) : M α :=
  fun machine =>
    let callers := machine.callers
    let stack := machine.stack
    if stack < bytes then throwOverflow machine
    else
      match run { machine with callers := function :: callers, stack := stack - bytes } with
      | .ok value machine => .ok value { machine with callers := callers, stack := stack }
      | .error abrupt machine => .error abrupt { machine with callers := callers, stack := stack }

/-- The bytes of the stack that a call of code takes besides those for its names. -/
def codeBytes : Nat := 360

/-- The bytes of the stack that a name takes. -/
def nameBytes : Nat := 16

/-- The bytes of the stack that a call of a function of the library takes. -/
def nativeBytes : Nat := 200

def Code.stackBytes (code : Code) : Nat :=
  codeBytes + nameBytes * (code.parameters.length + code.variableNames.length)

/-- Calls a function that was made of code. -/
def callClosure (function : Ref) (closure : Closure) (this : Value) (arguments : Array Value) :
    M Value := do
  poll
  let code ← codeOf closure.code
  asCaller function code.stackBytes do
    if closure.isClass then throwType "class constructors must be invoked with 'new'"
    if code.kind = .arrow then startCode it function closure code arguments closure.env.frame
    else
      let this ← if code.isStrict then pure this else sloppyThis this
      inFrame ⟨some this, some function, .undefined, closure.home⟩
        (startCode it function closure code arguments)

/-! ### Making objects with functions -/

/-- The object that things made by a constructor inherit from. -/
def prototypeFor (newTarget : Value) (standard : Intrinsic) : M Ref := do
  match newTarget with
  | .object ref =>
    match ← getProperty it ref "prototype" with
    | .object prototype => return prototype
    | _ => return standard.ref
  | _ => return standard.ref

/-- Gives an object what the class of its constructor says. -/
def addParts (object : Ref) : List InstancePart → M Unit
  | [] => return
  | part :: rest => do
    match part with
    | .hidden key property =>
      if (← ownProperty it object key).isSome then throwType "private method is already present"
      putProperty object key property
    | .field key initial =>
      let value ← match initial with
        | some initial => it.call initial (.object object) #[]
        | none => pure .undefined
      match key with
      | .hidden _ =>
        if (← ownProperty it object key).isSome then
          throwKeyed .type "private class field '" key "' already exists"
        putProperty object key (.plain value)
      | key => createOrThrow it object key value
    addParts object rest

/-- Makes an object with a function that was made of code. -/
def constructClosure (function : Ref) (closure : Closure) (arguments : Array Value)
    (newTarget : Value) : M Value := do
  poll
  let code ← codeOf closure.code
  asCaller function code.stackBytes do
  unless code.isConstructor do throwType "not a constructor"
  let this ← if code.kind = .derivedConstructor then pure none
    else do
      let prototype ← prototypeFor it newTarget .objectPrototype
      let object ← allocate (.ofKind (some prototype) .ordinary)
      addParts it object closure.parts
      pure (some (.object object))
  inFrame ⟨this, some function, newTarget, closure.home⟩ fun frame => do
    let result ← runCode it function closure code arguments frame
    match result with
    | .object _ => return result
    | _ =>
      if code.kind = .derivedConstructor && !result.isUndefined then
        throwType "derived class constructor must return an object or undefined"
      match (← getFrame frame).this with
      | some this => return this
      | none => throwNew .reference "this is not initialized"

/-- Calls the constructor above the one that is running. -/
def callSuper (env : Env) (arguments : Array Value) : M Value := do
  let frame ← getFrame env.frame
  let function := frame.function.getD 0
  match ← prototypeOf it function with
  | none => throwType "parent class is not constructor"
  | some parent =>
    let this ← it.construct (.object parent) arguments frame.newTarget
    if (← getFrame env.frame).this.isSome then
      throwNew .reference "'this' can be initialized only once"
    modify fun machine =>
      { machine with
        frames := machine.frames.modify env.frame fun frame => { frame with this := some this } }
    match this, (← getObject function).kind with
    | .object object, .closure closure => addParts it object closure.parts
    | _, _ => pure ()
    return this

def readThis (env : Env) : M Value := do
  match (← getFrame env.frame).this with
  | some this => return this
  | none => throwNew .reference "this is not initialized"

end Fingerprint.Script
