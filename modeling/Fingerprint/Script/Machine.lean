import Fingerprint.Config
import Fingerprint.Script.Ordinary

/-!
The state of a script engine, and the computations on it.

A computation yields a value or ends early; what it did to the state up to then is kept either way.
-/

namespace Fingerprint.Script

/-- The objects that are there from the start, in the order of their places in the heap. -/
inductive Intrinsic where
  | global
  | objectPrototype | functionPrototype | arrayPrototype | textPrototype | numberPrototype
  | booleanPrototype | symbolPrototype | bigIntPrototype | regexPrototype | datePrototype
  | mapPrototype | setPrototype | weakMapPrototype | weakSetPrototype | promisePrototype
  | iteratorPrototype | asyncIteratorPrototype
  | arrayIteratorPrototype | mapIteratorPrototype | setIteratorPrototype | textIteratorPrototype
  | matchIteratorPrototype | helperPrototype | wrapperPrototype
  | generatorPrototype | asyncGeneratorPrototype
  | generatorFunctionPrototype | asyncFunctionPrototype | asyncGeneratorFunctionPrototype
  | errorPrototype | typeErrorPrototype | rangeErrorPrototype | referenceErrorPrototype
  | syntaxErrorPrototype | evalErrorPrototype | uriErrorPrototype | internalErrorPrototype
  | aggregateErrorPrototype
  | weakRefPrototype | finalizationPrototype
  | bufferPrototype | sharedBufferPrototype | viewPrototype | dataViewPrototype
  | uint8ClampedPrototype | int8Prototype | uint8Prototype | int16Prototype | uint16Prototype |
    int32Prototype
  | uint32Prototype | bigInt64Prototype | bigUint64Prototype | float16Prototype | float32Prototype
  | float64Prototype
  | object | function | array | text | number | boolean | symbol | bigInt | regex | date
  | map | set | weakMap | weakSet | promise | iterator
  | generatorFunction | asyncFunction | asyncGeneratorFunction
  | error | typeError | rangeError | referenceError | syntaxError | evalError | uriError
  | internalError | aggregateError
  | weakRef | finalization | proxy | buffer | sharedBuffer | view | dataView
  | uint8Clamped | int8 | uint8 | int16 | uint16 | int32 | uint32 | bigInt64 | bigUint64 | float16 |
    float32 | float64
  | math | json | reflect | atomics | performance
  /-- The function that lists the items of an array. -/
  | arrayValues
  /-- The function behind properties that strict functions refuse. -/
  | refusal
  /-- The names of array methods that are passed over in the objects of `with`. -/
  | unscopables
deriving DecidableEq, Repr, Inhabited

namespace Intrinsic

def all : List Intrinsic :=
  [ .global, .objectPrototype, .functionPrototype, .arrayPrototype, .textPrototype,
    .numberPrototype, .booleanPrototype, .symbolPrototype, .bigIntPrototype, .regexPrototype,
    .datePrototype, .mapPrototype, .setPrototype, .weakMapPrototype, .weakSetPrototype,
    .promisePrototype, .iteratorPrototype, .asyncIteratorPrototype, .arrayIteratorPrototype,
    .mapIteratorPrototype, .setIteratorPrototype, .textIteratorPrototype,
    .matchIteratorPrototype, .helperPrototype, .wrapperPrototype, .generatorPrototype,
    .asyncGeneratorPrototype, .generatorFunctionPrototype, .asyncFunctionPrototype,
    .asyncGeneratorFunctionPrototype, .errorPrototype, .typeErrorPrototype,
    .rangeErrorPrototype, .referenceErrorPrototype, .syntaxErrorPrototype, .evalErrorPrototype,
    .uriErrorPrototype, .internalErrorPrototype, .aggregateErrorPrototype, .weakRefPrototype,
    .finalizationPrototype, .bufferPrototype, .sharedBufferPrototype, .viewPrototype,
    .dataViewPrototype, .uint8ClampedPrototype, .int8Prototype, .uint8Prototype,
    .int16Prototype, .uint16Prototype, .int32Prototype, .uint32Prototype, .bigInt64Prototype,
    .bigUint64Prototype, .float16Prototype, .float32Prototype, .float64Prototype, .object,
    .function, .array, .text, .number, .boolean, .symbol, .bigInt, .regex, .date, .map, .set,
    .weakMap, .weakSet, .promise, .iterator, .generatorFunction, .asyncFunction,
    .asyncGeneratorFunction, .error, .typeError, .rangeError, .referenceError, .syntaxError,
    .evalError, .uriError, .internalError, .aggregateError, .weakRef, .finalization, .proxy,
    .buffer, .sharedBuffer, .view, .dataView, .uint8Clamped, .int8, .uint8, .int16, .uint16,
    .int32, .uint32, .bigInt64, .bigUint64, .float16, .float32, .float64, .math, .json,
    .reflect, .atomics, .performance, .arrayValues, .refusal, .unscopables ]

/-- The place of an object in the heap. -/
def ref (intrinsic : Intrinsic) : Ref := intrinsic.ctorIdx

end Intrinsic

/-- The symbols that the language itself looks at. -/
inductive WellKnownSymbol where
  | toPrimitive
  | iterator
  | matchMethod
  | matchAllMethod
  | replaceMethod
  | searchMethod
  | splitMethod
  | toStringTag
  | isConcatSpreadable
  | hasInstance
  | species
  | unscopables
  | asyncIterator
deriving DecidableEq, Repr, Inhabited

namespace WellKnownSymbol

def all : List (WellKnownSymbol × String) :=
  [ (.toPrimitive, "toPrimitive"), (.iterator, "iterator"), (.matchMethod, "match"),
    (.matchAllMethod, "matchAll"), (.replaceMethod, "replace"), (.searchMethod, "search"),
    (.splitMethod, "split"), (.toStringTag, "toStringTag"),
    (.isConcatSpreadable, "isConcatSpreadable"), (.hasInstance, "hasInstance"),
    (.species, "species"), (.unscopables, "unscopables"), (.asyncIterator, "asyncIterator") ]

def id (symbol : WellKnownSymbol) : Nat := symbol.ctorIdx

def key (symbol : WellKnownSymbol) : Key := .symbol symbol.id

end WellKnownSymbol

/-- A name with its value; there is none before its declaration has been evaluated. -/
structure Binding where
  name : String
  value : Option Value
  kind : BindingKind
deriving Inhabited

structure Scope where
  outer : Option Nat
  bindings : Array Binding
  /-- The object whose properties are names, in the body of `with`. -/
  object : Option Ref
deriving Inhabited

/-- A call of a function. -/
structure Frame where
  /-- The value of `this`; a derived constructor has none before it has called the one above. -/
  this : Option Value
  function : Option Ref
  newTarget : Value
  home : Option Ref
deriving Inhabited

structure Machine where
  objects : Array Object
  scopes : Array Scope
  frames : Array Frame
  library : CodeLibrary
  /-- The descriptions of symbols. -/
  symbols : Array (Option Units)
  /-- The symbols that are found by their descriptions. -/
  registered : List (Units × Nat)
  /-- The names that are hidden in classes. -/
  hiddenNames : Array HiddenName
  /-- The value of the last expression that stood by itself. -/
  completion : Value
  /-- The functions that are running, the last one first. -/
  callers : List Ref
  /-- The bytes of the stack that are left. -/
  stack : Nat
  /-- The objects of templates that functions get, by the numbers of the templates. -/
  templates : List (Nat × Ref)
  /-- The scopes and frames in front of this place may be used again by functions. -/
  heldScopes : Nat
  heldFrames : Nat
  /-- The time that has passed, in steps. -/
  clock : Nat
  /-- The steps until the clock is looked at again. -/
  untilCheck : Nat
  /-- The last step before the deadline. -/
  deadline : Nat
  /-- The memory limit in bytes, if there is one. -/
  memory : Option Nat
  seed : UInt64
deriving Inhabited

/-- Why a computation ends early. -/
inductive Abrupt where
  | thrown (value : Value)
  /-- The deadline has passed; scripts cannot catch it. -/
  | interrupted
  /-- A chain of members ends at a missing one. -/
  | skipped
  /-- A function waits for a promise. -/
  | suspended
deriving Inhabited

abbrev M := EStateM Abrupt Machine

namespace Intrinsic

def value (intrinsic : Intrinsic) : Value := .object intrinsic.ref

end Intrinsic

/-! ### Time -/

/-- The number of steps that count as a millisecond. -/
def stepsPerMillisecond : Nat := 3000

/-- The number of steps between two looks at the clock. -/
def checkInterval : Nat := 10000

/-- Takes a step. The clock is looked at from time to time only. -/
@[inline] def poll : M Unit := do
  let machine ← get
  match machine.untilCheck with
  | left + 1 => set { machine with clock := machine.clock + 1, untilCheck := left }
  | 0 =>
    if machine.deadline ≤ machine.clock then
      set { machine with untilCheck := checkInterval }
      throw .interrupted
    else set { machine with clock := machine.clock + 1, untilCheck := checkInterval }

/-- Repeats a step until it yields a result. Each time takes a step on the clock, so that the
deadline ends what would go on forever; `fuel` bounds the steps up to then. -/
@[specialize] def repeatUpTo {σ β : Type} (step : σ → M (σ ⊕ β)) : Nat → σ → M β
  | 0, _ => throw .interrupted
  | fuel + 1, state => do
    match ← step state with
    | .inl state => do
      poll
      repeatUpTo step fuel state
    | .inr result => return result

@[inline] def repeatLoop {σ β : Type} (start : σ) (step : σ → M (σ ⊕ β)) : M β := do
  let machine ← get
  repeatUpTo step (machine.deadline + checkInterval + 2) start

/-- Lets time pass. -/
@[inline] def spend (steps : Nat) : M Unit := do
  modify fun machine =>
    { machine with clock := machine.clock + steps, untilCheck := machine.untilCheck - steps }

/-! ### Objects -/

def getObject (ref : Ref) : M Object := return (← get).objects[ref]?.getD default

/-- Changes an object in its place. -/
@[inline] def modifyObject (ref : Ref) (change : Object → Object) : M Unit :=
  modify fun machine => { machine with objects := machine.objects.modify ref change }

/-- Makes an object, which takes a step. -/
def allocate (object : Object) : M Ref := do
  let ref := (← get).objects.size
  modify fun machine =>
    { machine with
      objects := machine.objects.push object
      clock := machine.clock + 1
      untilCheck := machine.untilCheck - 1 }
  return ref

def newObject : M Ref := allocate (.ofKind (some Intrinsic.objectPrototype.ref) .ordinary)

def newArray (items : Array Value) : M Ref :=
  allocate (.ofKind (some Intrinsic.arrayPrototype.ref)
    (.array (items.map some) items.size true))

def newRegex (pattern : Pattern) : M Value := do
  let place : Property := ⟨.data (.ofNat 0) true, false, false⟩
  return .object (← allocate ⟨some Intrinsic.regexPrototype.ref, .regex pattern,
    PropertyTable.empty.set "lastIndex" place, true⟩)

/-- Gives an object a property, whatever it had under the key. -/
def putProperty (ref : Ref) (key : Key) (property : Property) : M Unit :=
  modifyObject ref fun object => { object with properties := object.properties.set key property }

/-! ### Errors -/

/-- The kinds of errors that the language itself throws. -/
inductive ErrorKind where
  | type
  | range
  | reference
  | grammar
  | internal
  | uri
deriving DecidableEq, Repr, Inhabited

def ErrorKind.prototype : ErrorKind → Intrinsic
  | .type => .typeErrorPrototype
  | .range => .rangeErrorPrototype
  | .reference => .referenceErrorPrototype
  | .grammar => .syntaxErrorPrototype
  | .internal => .internalErrorPrototype
  | .uri => .uriErrorPrototype

/-- The number of calls that a report shows unless a script says otherwise. -/
def standardReportLimit : Nat := 10

/-- The key under which the constructor of errors keeps what scripts say about reports. -/
def reportLimitKey : Key := .hidden 0

/-- The largest number of calls that a report shows. -/
def reportLimit (machine : Machine) : Nat :=
  match (machine.objects[Intrinsic.error.ref]?.getD default).properties.get? reportLimitKey with
  | some ⟨.data (.number limit) _, _, _⟩ => limit.toUInt64.toNat
  | some _ => 0
  | none => standardReportLimit

/-- The line of a report about the call of a function. -/
def callLine (machine : Machine) (function : Ref) : Units :=
  let object := machine.objects[function]?.getD default
  let name : Units := match object.properties.get? "name" with
    | some ⟨.data (.text name) _, _, _⟩ => if name.isEmpty then "<anonymous>" else name
    | _ => "<anonymous>"
  let place : Units := match object.kind with
    | .closure _ => " (eval_script:1:1)\n"
    | _ => " (native)\n"
  "    at " ++ name ++ place

/-- The report of the calls that led to an error, the last one first. -/
def callReport (machine : Machine) (callers : List Ref) : Units :=
  let lines := callers.map (callLine machine) ++ [("    at <eval> (eval_script:1:1)\n" : Units)]
  (lines.take (reportLimit machine)).foldl (· ++ ·) Units.empty

/-- The steps that the report of an error takes. -/
def reportSteps : Nat := 8

def newError (kind : ErrorKind) (message : Units) : M Value := do
  spend reportSteps
  let machine ← get
  let report := callReport machine machine.callers
  let properties := PropertyTable.empty.set "message" (.unlisted (.text message))
  let properties := properties.set "stack" (.unlisted (.text report))
  return .object (← allocate ⟨some kind.prototype.ref, .error, properties, true⟩)

def throwValue {α : Type} (value : Value) : M α := throw (.thrown value)

/-- The most bytes that a message of the language itself takes. -/
def messageBytes : Nat := 255

def throwNew {α : Type} (kind : ErrorKind) (message : Units) : M α := do
  throwValue (← newError kind (message.cut messageBytes))

/-- Throws an error with a message about a name. -/
def throwNamed {α : Type} (kind : ErrorKind) (before : String) (name : Units) (behind : String) :
    M α :=
  throwNew kind (before ++ name.shown ++ behind)

def throwType {α : Type} (message : String) : M α := throwNew .type message

def throwRange {α : Type} (message : String) : M α := throwNew .range message

/-- The stack is used up. -/
def throwOverflow {α : Type} : M α := throwRange "Maximum call stack size exceeded"

def throwMemory {α : Type} : M α := throwNew .internal "out of memory"

/-- Refuses texts and arrays that are too large for the memory. -/
def reserve (bytes : Nat) : M Unit := do
  match (← get).memory with
  | some limit => if limit < bytes then throwMemory
  | none => return

/-- The number of bytes that an item of an array takes. -/
def itemBytes : Nat := 16

/-- The number of bytes that a property takes. -/
def propertyBytes : Nat := 64

/-- The number of bytes that an object takes, where it is kept included. -/
def objectBytes : Nat := 128

/-- The number of bytes that a value takes where it is kept. -/
def valueBytes : Value → Nat
  | .object _ => objectBytes
  | _ => itemBytes

/-! ### Evaluators -/

/-- What is done with objects that leave it to a handler. -/
structure Handling where
  prototype : Ref → M (Option Ref)
  setPrototype : Ref → Option Ref → M Bool
  isExtensible : Ref → M Bool
  preventExtensions : Ref → M Bool
  own : Ref → Key → M (Option Property)
  define : Ref → Key → Descriptor → M Bool
  has : Ref → Key → M Bool
  /-- The last value is what `this` stands for in a getter. -/
  get : Ref → Key → Value → M Value
  /-- The last value is the object that is assigned to. -/
  set : Ref → Key → Value → Value → M Written
  delete : Ref → Key → M Bool
  keys : Ref → M (List Key)

/-- The evaluators that call each other. There is one such record for each depth of the stack. -/
structure Interpreter where
  expression : Env → Expr → M Value
  statement : Env → Stmt → M Flow
  /-- Calls a function with a value for `this`. -/
  call : Value → Value → Array Value → M Value
  /-- Makes an object with a constructor; the last value is what `new.target` stands for. -/
  construct : Value → Array Value → Value → M Value
  /-- Gives the parts of a value to a pattern; `true` if the names in it are declared by it. -/
  assign : Env → Bool → Expr → Value → M Unit
  /-- What is done with the objects that have handlers. -/
  handled : Handling

end Fingerprint.Script
