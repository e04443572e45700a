import Fingerprint.Script.Library.Iterators

/-!
The functions of promises.

What waits for a promise does not happen while scripts are probed, so that promises have no state:
what counts is which functions are called, and which properties are read, when promises are made.
-/

namespace Fingerprint.Script.Standard

variable (it : Interpreter)

/-! ### Settling -/

/-- A function that refers to values. -/
def newLinked (code : String) (length : Nat) (values : Array Value) : M Value := do
  return .object (← allocate ⟨some Intrinsic.functionPrototype.ref, .linked ⟨.promise, code⟩ values,
    functionProperties .empty length, true⟩)

/-- A promise with the functions that settle it. -/
structure Capability where
  promise : Value
  resolve : Value
  reject : Value

/-- The functions that settle a promise; only the first call of one of them counts. -/
def settlers (promise : Value) : M Capability := do
  let mark := Value.object (← newObject)
  let resolve ← newLinked "settle with value" 1 #[promise, mark]
  return ⟨promise, resolve, ← newLinked "settle with error" 1 #[promise, mark]⟩

/-- Notes that a promise is settled, and tells whether it was not before. -/
def claimSettling (function : Value) : M Bool := do
  match ← heldValue function 1 with
  | .object mark =>
    let isFirst := (← ownProperty it mark "settled").isNone
    createProperty mark "settled" (.bool true)
    return isFirst
  | _ => return false

def settle (call : LibraryCall) : M Value := do
  if ← claimSettling it call.function then
    unless (← heldValue call.function 0).same call.first do askThen it call.first
  return .undefined

/-- Keeps the functions that a constructor gives to what settles its promise. -/
def keepSettlers (call : LibraryCall) : M Value := do
  match ← heldValue call.function 0 with
  | .object record =>
    for name in ["resolve", "reject"] do
      unless (← getProperty it record (.ofUnits name)).isUndefined do
        throwType "resolving function already set"
    createProperty record "resolve" call.first
    createProperty record "reject" call.second
  | _ => pure ()
  return .undefined

/-- A promise that a constructor makes. -/
def newCapability (constructor : Value) : M Capability := do
  match constructor with
  | .undefined => settlers (← newPromise)
  | constructor =>
    let record ← newObject
    let executor ← newLinked "keep settlers" 2 #[.object record]
    let promise ← it.construct constructor #[executor] constructor
    let resolve ← requireCallable (← getProperty it record "resolve")
    return ⟨promise, resolve, ← requireCallable (← getProperty it record "reject")⟩

/-- Does something that yields a value, and rejects a promise if it fails. -/
def rejecting (capability : Capability) (work : M Unit) : M Value := do
  try work
  catch
    | .thrown error => let _ ← it.call capability.reject .undefined #[error]
    | abrupt => throw abrupt
  return capability.promise

/-! ### Making promises -/

/-- A promise; the function that settles it is called at once. -/
def startPromise (call : LibraryCall) : M Value := do
  unless call.isConstruction do throwType "must be called with new"
  let executor ← requireCallable call.first
  let prototype ← prototypeFor it call.newTarget .promisePrototype
  let promise := Value.object (← allocate (.ofKind (some prototype) .promise))
  let capability ← settlers promise
  rejecting it capability do
    let _ ← it.call executor .undefined #[capability.resolve, capability.reject]

def isPromise (value : Value) : M Bool := do
  match value with
  | .object ref =>
    match (← getObject ref).kind with
    | .promise => return true
    | _ => return false
  | _ => return false

def resolvePromise (constructor value : Value) : M Value := do
  let isOwn ← if ← isPromise value then do
      pure ((← getOf it value "constructor").same constructor)
    else pure false
  if isOwn then return value
  else
    let capability ← newCapability it constructor
    let _ ← it.call capability.resolve .undefined #[value]
    return capability.promise

def rejectPromise (constructor error : Value) : M Value := do
  let capability ← newCapability it constructor
  let _ ← it.call capability.reject .undefined #[error]
  return capability.promise

def tryPromise (call : LibraryCall) : M Value := do
  let capability ← newCapability it call.this
  rejecting it capability do
    let result ← it.call call.first .undefined (call.arguments.extract 1 call.arguments.size)
    let _ ← it.call capability.resolve .undefined #[result]

def withResolvers (constructor : Value) : M Value := do
  let capability ← newCapability it constructor
  let ref ← newObject
  createProperty ref "promise" capability.promise
  createProperty ref "resolve" capability.resolve
  createProperty ref "reject" capability.reject
  return .object ref

/-- The functions that wait for one of several promises. -/
def waiters (name : String) (capability : Capability) : M (Value × Value) := do
  match name with
  | "race" => return (capability.resolve, capability.reject)
  | "all" => return (← newLinked "wait" 1 #[], capability.reject)
  | "any" => return (capability.resolve, ← newLinked "wait" 1 #[])
  | _ => return (← newLinked "wait" 1 #[], ← newLinked "wait" 1 #[])

/-- What is to be done when all promises of a list have been looked at and none of them is left. -/
def settleEmpty (name : String) (capability : Capability) : M Unit := do
  let values := Value.object (← newArray #[])
  match name with
  | "race" => return
  | "any" =>
    let error ← allocate (.ofKind (some Intrinsic.aggregateErrorPrototype.ref) .error)
    putProperty error "errors" (.unlisted values)
    let _ ← it.call capability.reject .undefined #[.object error]
  | _ =>
    let _ ← it.call capability.resolve .undefined #[values]

/-- A promise that waits for those of a list. -/
def combinePromises (name : String) (constructor items : Value) : M Value := do
  let capability ← newCapability it constructor
  rejecting it capability do
    let resolve ← requireCallable (← getOf it constructor "resolve")
    let count ← eachItem it items 0 (fun count item => do
      let promise ← it.call resolve constructor #[item]
      let (fulfilled, rejected) ← waiters name capability
      let _ ← invoke it promise "then" #[fulfilled, rejected]
      return .inl (count + 1)) pure
    if count = 0 then settleEmpty it name capability

def promise : LibraryCode := fun name call => do
  match name with
  | "settle with value" => settle it call
  | "settle with error" =>
    let _ ← claimSettling it call.function
    return .undefined
  | "keep settlers" => keepSettlers it call
  | "wait" => return .undefined
  | "finish" =>
    let _ ← it.call (← heldValue call.function 0) .undefined #[]
    newPromise
  | "Promise" => startPromise it call
  | "get [Symbol.species]" => return call.this
  | name =>
    let _ ← requireObject call.this
    match name with
    | "resolve" => resolvePromise it call.this call.first
    | "reject" => rejectPromise it call.this call.first
    | "try" => tryPromise it call
    | "withResolvers" => withResolvers it call.this
    | name => combinePromises it name call.this call.first

def promiseGroup : LibraryGroup where
  library := .promise
  members :=
    [ .method "resolve" 1, .method "reject" 1, .method "all" 1, .method "allSettled" 1,
      .method "any" 1, .method "try" 1, .method "race" 1, .method "withResolvers" 0,
      .keyedGetter .species ]

/-! ### Waiting for promises -/

def promiseThen (call : LibraryCall) : M Value := do
  unless ← isPromise call.this do throwClass "Promise"
  let constructor ← speciesOf it call.this Intrinsic.promise.value
  return (← newCapability it constructor).promise

def promiseFinally (call : LibraryCall) : M Value := do
  let _ ← speciesOf it call.this Intrinsic.promise.value
  let handlers ← if ← isCallable call.first then do
      pure #[← newLinked "finish" 1 #[call.first], ← newLinked "finish" 1 #[call.first]]
    else pure #[call.first, call.first]
  invoke it call.this "then" handlers

def promisePrototype : LibraryCode := fun name call =>
  match name with
  | "then" => promiseThen it call
  | "catch" => invoke it call.this "then" #[.undefined, call.first]
  | _ => promiseFinally it call

def promisePrototypeGroup : LibraryGroup :=
  ⟨.promisePrototype, [.method "then" 2, .method "catch" 1, .method "finally" 1, .tag "Promise"]⟩

end Fingerprint.Script.Standard
