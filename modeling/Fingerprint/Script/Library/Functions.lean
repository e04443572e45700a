import Fingerprint.Script.Library.Objects
import Fingerprint.Script.Program

/-!
The functions of functions, and of errors.
-/

namespace Fingerprint.Script.Standard

variable (it : Interpreter)

/-! ### Functions -/

/-- The text of a function. -/
def functionText (ref : Ref) : M Units := do
  match (← getObject ref).kind with
  | .closure closure => return (← codeOf closure.code).source
  | _ =>
    let name ← match ← getProperty it ref "name" with
      | .undefined => pure Units.empty
      | name => toUnits it name
    return "function " ++ name ++ "() \x7b\n    [native code]\n\x7d"

/-- The number of arguments that a function takes when some have been given already. -/
def remainingLength (target : Ref) (given : Nat) : M Value := do
  if (← ownProperty it target "length").isNone then return .ofNat 0
  match ← getProperty it target "length" with
  | .number value =>
    let whole := if value.isNaN then 0 else Number.truncate value
    let given := Float.ofNat given
    return .number (if whole ≤ given then 0 else whole - given)
  | _ => return .ofNat 0

/-- A function with its first arguments. -/
def bindFunction (call : LibraryCall) : M Value := do
  let .object target := ← requireCallable call.this | notFunction
  let constructs ← isConstructor call.this
  let bound := call.arguments.extract 1 call.arguments.size
  let length ← remainingLength it target bound.size
  let name : Units ← match ← getProperty it target "name" with
    | .text units => pure units
    | _ => pure .empty
  let locked (value : Value) : Property := ⟨.data value false, false, true⟩
  let properties := (PropertyTable.empty.set "length" (locked length)).set "name"
    (locked (.text ("bound " ++ name)))
  return .object (← allocate ⟨some Intrinsic.functionPrototype.ref,
    .bound target call.first bound constructs, properties, true⟩)

/-- What is known about the place of a function that was made of code. -/
def codePlace (this place : Value) : M Value := do
  match this with
  | .object ref =>
    match (← getObject ref).kind with
    | .closure _ => return place
    | _ => return .undefined
  | _ => return .undefined

/-- What is refused about all functions but those that are not strict and make objects. -/
def refuse (this : Value) : M Value := do
  match this with
  | .object ref =>
    match (← getObject ref).kind with
    | .closure closure =>
      let code ← codeOf closure.code
      if code.isStrict || !code.isConstructor then refused else return .undefined
    | _ => refused
  | _ => refused
where
  refused : M Value := throwType "invalid property access"

def functionPrototype : LibraryCode := fun name call => do
  match name with
  | "call" =>
    let function ← requireCallable call.this
    it.call function call.first (call.arguments.extract 1 call.arguments.size)
  | "apply" =>
    let function ← requireCallable call.this
    if call.second.isNullish then it.call function call.first #[]
    else it.call function call.first (← argumentList it call.second)
  | "bind" => bindFunction it call
  | "toString" =>
    let .object ref := ← requireCallable call.this | notFunction
    return .text (← functionText it ref)
  | "[Symbol.hasInstance]" =>
    if ← isCallable call.this then return .bool (← madeBy it call.first call.this 100)
    else return .bool false
  | "get fileName" => codePlace call.this (.ofText "eval_script")
  | "get lineNumber" | "get columnNumber" => codePlace call.this (.ofNat 1)
  | "refuse" => refuse call.this
  | _ => return .undefined

def functionPrototypeGroup : LibraryGroup where
  library := .functionPrototype
  members :=
    [ .method "call" 1, .method "apply" 2, .method "bind" 1, .method "toString" 0,
      .keyed .hasInstance 1, .getter "fileName", .getter "lineNumber", .getter "columnNumber" ]

/-- The words in front of the functions that a constructor of functions makes, and the object that
they inherit from. -/
def functionSort (name : String) : String × Intrinsic :=
  match name with
  | "GeneratorFunction" => ("function*", .generatorFunctionPrototype)
  | "AsyncFunction" => ("async function", .asyncFunctionPrototype)
  | "AsyncGeneratorFunction" => ("async function*", .asyncGeneratorFunctionPrototype)
  | _ => ("function", .functionPrototype)

/-- Makes a function of texts: the parameters and the body. -/
def newFunction : LibraryCode := fun name call => do
  let (words, prototype) := functionSort name
  let texts ← call.arguments.toList.mapM (toUnits it)
  let body := texts.getLastD .empty
  let parameters := Units.join "," texts.dropLast
  let text : Units :=
    ("(" ++ words ++ " anonymous(" : String) ++ parameters ++ "\n) \x7b\n" ++ body ++
    "\n\x7d)"
  let made ← evaluateText it (globalEnv false) text
  match made with
  | .object ref =>
    if call.isConstruction then
      let prototype ← prototypeFor it call.newTarget prototype
      modifyObject ref fun object => { object with prototype := some prototype }
  | _ => pure ()
  return made

/-! ### Errors -/

/-- The object that errors of a kind inherit from. -/
def errorPrototypeOf (name : String) : Intrinsic :=
  match name with
  | "TypeError" => .typeErrorPrototype
  | "RangeError" => .rangeErrorPrototype
  | "ReferenceError" => .referenceErrorPrototype
  | "SyntaxError" => .syntaxErrorPrototype
  | "EvalError" => .evalErrorPrototype
  | "URIError" => .uriErrorPrototype
  | "InternalError" => .internalErrorPrototype
  | "AggregateError" => .aggregateErrorPrototype
  | _ => .errorPrototype

/-- The calls that led to a call of a function of the library. -/
def reportBefore : M Value := do
  let machine ← get
  return .text (callReport machine (machine.callers.drop 1))

def newErrorOf (name : String) (call : LibraryCall) : M Value := do
  let prototype ← prototypeFor it call.newTarget (errorPrototypeOf name)
  let ref ← allocate (.ofKind (some prototype) .error)
  let (message, options) := if name = "AggregateError" then (call.second, call.argument 2)
    else (call.first, call.second)
  unless message.isUndefined do
    putProperty ref "message" (.unlisted (.text (← toUnits it message)))
  match options with
  | .object options =>
    if ← hasProperty it options "cause" then
      putProperty ref "cause" (.unlisted (← getProperty it options "cause"))
  | _ => pure ()
  if name = "AggregateError" then
    putProperty ref "errors" (.unlisted (.object (← newArray (← listOf it call.first))))
  putProperty ref "stack" (.unlisted (← reportBefore))
  return .object ref

/-- Keeps the number of calls that reports show. -/
def setReportLimit (value : Value) : M Unit := do
  let limit : Value := match value with
    | .number limit => .number limit
    | _ => .undefined
  putProperty Intrinsic.error.ref reportLimitKey (.unlisted limit)

def error : LibraryCode := fun name call => do
  match name with
  | "isError" =>
    match call.first with
    | .object ref =>
      match (← getObject ref).kind with
      | .error => return .bool true
      | _ => return .bool false
    | _ => return .bool false
  | "captureStackTrace" =>
    let ref ← requireObject call.first
    defineOrThrow it ref "stack" (.ofProperty (.unlisted (← reportBefore)))
    return .undefined
  | "get stackTraceLimit" =>
    match (← getObject Intrinsic.error.ref).properties.get? reportLimitKey with
    | some ⟨.data limit _, _, _⟩ => return limit
    | _ => return .ofNat standardReportLimit
  | "set stackTraceLimit" =>
    setReportLimit call.first
    return .undefined
  | "get prepareStackTrace" | "set prepareStackTrace" => return .undefined
  | name => newErrorOf it name call

def errorGroup : LibraryGroup where
  library := .error
  members :=
    [ .method "isError" 1, .method "captureStackTrace" 2, .accessor "stackTraceLimit",
      .accessor "prepareStackTrace" ]

/-- A part of the text of an error. -/
def errorPart (ref : Ref) (key : Key) (standard : Units) : M Units := do
  match ← getProperty it ref key with
  | .undefined => return standard
  | value => toUnits it value

def errorPrototype : LibraryCode := fun _ call => do
  let ref ← requireObject call.this
  let name ← errorPart it ref "name" "Error"
  let message ← errorPart it ref "message" .empty
  if name.isEmpty then return .text message
  else if message.isEmpty then return .text name
  else return .text (name ++ ": " ++ message)

def errorPrototypeGroup : LibraryGroup where
  library := .errorPrototype
  members := [.method "toString" 0, .data "name" (.ofText "Error"), .data "message" (.text .empty)]

/-- What errors of one kind inherit. -/
def specialErrorGroup (name : String) : LibraryGroup :=
  ⟨.errorPrototype, [.data "name" (.ofText name), .data "message" (.text .empty)]⟩

end Fingerprint.Script.Standard
