import Fingerprint.Script.Reference

/-!
Methods of objects and the definition of classes.
-/

namespace Fingerprint.Script

variable (it : Interpreter)

/-- The name of a method that is kept under a key. -/
def methodName (kind : MemberKind) (key : Key) (name : Units) : M Units := do
  let label ← match key with
    | .hidden _ => pure name
    | key => keyLabel key
  match kind, key with
  | _, .hidden _ => return label
  | .method, _ => return label
  | .getter, _ => return "get " ++ label
  | .setter, _ => return "set " ++ label

/-- A property with a getter or setter, joined to the one that is there. -/
def accessorProperty (kind : MemberKind) (function : Value) (current : Option Property)
    (enumerable : Bool) : Property :=
  let (getter, setter) := match current with
    | some ⟨.accessor getter setter, _, _⟩ => (getter, setter)
    | _ => (.undefined, .undefined)
  match kind with
  | .getter => ⟨.accessor function setter, enumerable, true⟩
  | _ => ⟨.accessor getter function, enumerable, true⟩

/-- The property that holds a method, getter or setter. -/
def methodProperty (env : Env) (home : Ref) (kind : MemberKind) (key : Key) (code : CodeRef)
    (current : Option Property) (enumerable : Bool) : M Property := do
  let name ← methodName kind key (← codeOf code).name
  let function := Value.object (← makeFunction env code (some name) (some home))
  match kind with
  | .method =>
    return ⟨.data function (!isHidden key), enumerable, true⟩
  | kind => return accessorProperty kind function current enumerable

/-- Gives an object a method, getter or setter. -/
def defineMethod (env : Env) (object : Ref) (kind : MemberKind) (key : Key) (code : CodeRef)
    (enumerable : Bool) : M Unit := do
  let current ← ownProperty it object key
  let property ← methodProperty env object kind key code current enumerable
  modifyObject object (·.define key property)

/-! ### Classes -/

/-- What is done with a class once it has been made. -/
inductive StaticPart where
  | field (key : Key) (value : Option Value)
  | run (initializer : Value)

/-- The parts of a class that have been evaluated, the last ones first. -/
structure EvaluatedParts where
  instanceParts : List InstancePart
  staticParts : List StaticPart

/-- The objects that a class and its prototype inherit from. -/
def heritageOf (env : Env) (heritage : Option Expr) : M (Option Ref × Ref) := do
  match heritage with
  | none => return (some Intrinsic.objectPrototype.ref, Intrinsic.functionPrototype.ref)
  | some heritage =>
    match ← it.expression env heritage with
    | .null => return (none, Intrinsic.functionPrototype.ref)
    | .object ref =>
      unless ← isConstructor (.object ref) do throwType "parent class must be constructor"
      match ← getProperty it ref "prototype" with
      | .object prototype => return (some prototype, ref)
      | .null => return (none, ref)
      | _ => throwType "parent prototype must be an object or null"
    | _ => throwType "parent class must be constructor"

def addCode (code : Code) : M CodeRef := do
  let place := (← get).library.codes.size
  modify fun machine =>
    { machine with library := { machine.library with codes := machine.library.codes.push code } }
  return place

/-- The constructor of a class that does not spell one out. -/
def standardConstructor (derived : Bool) (name source : Units) : Code :=
  let all := Expr.spread (.name "args")
  { kind := if derived then .derivedConstructor else .baseConstructor
    name := name
    isAsync := false
    isGenerator := false
    isStrict := true
    parameters := if derived then [all] else []
    parameterNames := if derived then ["args"] else []
    isSimple := !derived
    usesArguments := false
    bindsItself := false
    length := 0
    variableNames := []
    declarations := .none
    body := if derived then [.expression (.superCall [all])] else []
    source := source }

/-- Joins a hidden accessor to its partner among the parts. -/
def addHidden (key : Key) (property : Property) (parts : List InstancePart) : List InstancePart :=
  let (same, others) := parts.partition fun part => match part with
    | .hidden other _ => other == key
    | _ => false
  match same, property.content with
  | [.hidden _ ⟨.accessor getter setter, _, _⟩], .accessor getter' setter' =>
    let joined := Content.accessor (if getter'.isUndefined then getter else getter')
      (if setter'.isUndefined then setter else setter')
    .hidden key { property with content := joined } :: others
  | _, _ => .hidden key property :: parts

/-- Evaluates a part of a class; methods are put in their place at once. -/
def evaluateElement (env : Env) (constructor prototype : Ref) (parts : EvaluatedParts)
    (element : ClassElement) : M EvaluatedParts := do
  match element with
  | .function isStatic kind key code =>
    let home := if isStatic then constructor else prototype
    let key ← evaluateKey it env key
    if isHidden key && !isStatic then
      let property ← methodProperty env home kind key code none false
      return { parts with instanceParts := addHidden key property parts.instanceParts }
    else
      defineMethod it env home kind key code false
      return parts
  | .field isStatic key value =>
    let home := if isStatic then constructor else prototype
    let key ← evaluateKey it env key
    let value ←
      value.mapM fun code => return Value.object (← makeFunction env code none (some home))
    if isStatic then return { parts with staticParts := .field key value :: parts.staticParts }
    else return { parts with instanceParts := .field key value :: parts.instanceParts }
  | .initializer code =>
    let function := Value.object (← makeFunction env code none (some constructor))
    return { parts with staticParts := .run function :: parts.staticParts }

def evaluateElements (env : Env) (constructor prototype : Ref) :
    List ClassElement → EvaluatedParts → M EvaluatedParts
  | [], parts => return parts
  | element :: rest, parts => do
    evaluateElements env constructor prototype rest
      (← evaluateElement it env constructor prototype parts element)

def runStaticPart (constructor : Ref) (part : StaticPart) : M Unit := do
  match part with
  | .run initializer => let _ ← it.call initializer (.object constructor) #[]
  | .field key initial =>
    let value ← match initial with
      | some initial => it.call initial (.object constructor) #[]
      | none => pure .undefined
    if isHidden key then putProperty constructor key (.plain value)
    else createOrThrow it constructor key value

/-- Hidden methods stand in front of the fields. -/
def hiddenFirst (parts : List InstancePart) : List InstancePart :=
  let (hidden, fields) := parts.partition fun part => match part with
    | .hidden .. => true
    | .field .. => false
  hidden ++ fields

/-- Makes a class whose names are bound in a scope of its own. -/
def buildClass (env : Env) (definition : ClassCode) (name : Units) : M Value := do
  let (protoParent, parent) ← heritageOf it env definition.heritage
  hold
  let prototype ← allocate (.ofKind protoParent .ordinary)
  let code ← match definition.constructorCode with
    | some code => do pure { (← codeOf code) with source := definition.source }
    | none => pure (standardConstructor definition.heritage.isSome name definition.source)
  let length := code.length
  let code ← addCode code
  let properties := (functionProperties name length).set "prototype" (.fixed (.object prototype))
  let closure : Closure := ⟨code, env, some prototype, [], true⟩
  let constructor ← allocate ⟨some parent, .closure closure, properties, true⟩
  putProperty prototype "constructor" (.unlisted (.object constructor))
  let parts ← evaluateElements it env constructor prototype definition.elements ⟨[], []⟩
  modifyObject constructor fun object =>
    { object with
      kind := .closure { closure with parts := hiddenFirst parts.instanceParts.reverse } }
  if let some name := definition.name then initializeName it env name (.object constructor)
  parts.staticParts.reverse.forM (runStaticPart it constructor)
  return .object constructor

def evaluateClass (env : Env) (ref : ClassRef) : M Value := do
  let definition := (← get).library.classes[ref]?.getD default
  let hidden ← hiddenBindings definition.hiddenNames
  let own : Array Binding := match definition.name with
    | some name => #[⟨name, none, .constant⟩]
    | none => #[]
  inScope env.scope (own ++ hidden) fun scope =>
    let name := (definition.name.map Units.ofString).getD definition.label
    buildClass it { env with scope := scope, isStrict := true } definition name

end Fingerprint.Script
