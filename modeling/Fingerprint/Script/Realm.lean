import Fingerprint.Script.Library.Collections
import Fingerprint.Script.Library.Dates
import Fingerprint.Script.Library.Globals
import Fingerprint.Script.Library.Json
import Fingerprint.Script.Library.Mathematics
import Fingerprint.Script.Library.Promises
import Fingerprint.Script.Library.Proxies
import Fingerprint.Script.Library.Texts
import Fingerprint.Script.Library.Views

/-!
The objects that scripts find when they start.
-/

namespace Fingerprint.Script

open Standard

/-- What the functions of each group do. -/
def libraryCode (it : Interpreter) : Library → LibraryCode
  | .global => globalCode it
  | .object => object it
  | .objectPrototype => objectPrototype it
  | .function => newFunction it
  | .functionPrototype => functionPrototype it
  | .array => array it
  | .arrayPrototype => arrayPrototype it
  | .text => text it
  | .textPrototype => textPrototype it
  | .number => number it
  | .numberPrototype => numberPrototype it
  | .boolean => boolean it
  | .booleanPrototype => booleanPrototype
  | .symbol => symbol it
  | .symbolPrototype => symbolPrototype
  | .bigInt => bigInt it
  | .bigIntPrototype => bigIntPrototype it
  | .math => mathematics it
  | .json => json it
  | .regex => regex it
  | .regexPrototype => regexPrototype it
  | .error => error it
  | .errorPrototype => errorPrototype it
  | .map => mapCode it
  | .mapPrototype => mapPrototype it
  | .set => setCode it
  | .setPrototype => setPrototypeCode it
  | .weak => weak it
  | .weakMapPrototype => weakMapPrototype
  | .weakSetPrototype => weakSetPrototype
  | .weakPrototype => weakPrototype
  | .promise => promise it
  | .promisePrototype => promisePrototype it
  | .reflect => reflect it
  | .date => date it
  | .datePrototype => datePrototype it
  | .iterator => iterator it
  | .iteratorPrototype => iteratorPrototype it
  | .asyncIteratorPrototype => asyncIteratorPrototype
  | .cursorPrototype => cursorPrototype it
  | .generatorPrototype => generatorPrototype it
  | .asyncGeneratorPrototype => asyncGeneratorPrototype it
  | .helperPrototype => helperPrototype it
  | .wrapperPrototype => wrapperPrototype it
  | .proxy => proxy
  | .buffer => buffer it
  | .bufferPrototype => bufferMethod it false
  | .sharedBufferPrototype => bufferMethod it true
  | .view => view it
  | .viewPrototype => viewPrototype it
  | .dataView => dataView it
  | .dataViewPrototype => dataViewPrototype it
  | .atomics => atomics it
  | .performance => performance

/-! ### Constructors -/

/-- A constructor with the object that its products inherit from. -/
structure Constructor where
  intrinsic : Intrinsic
  prototype : Intrinsic
  native : Native
  length : Nat
  /-- The properties of the constructor itself, before and behind `prototype`. -/
  before : List LibraryMember := []
  behind : List LibraryMember := []
  /-- What its products inherit. -/
  shared : LibraryGroup := ⟨.global, []⟩
  /-- Whether `constructor` stands in front of what the products inherit. -/
  namesFirst : Bool := false
  parent : Intrinsic := .functionPrototype

def constructors : List Constructor :=
  [ { intrinsic := .object, prototype := .objectPrototype,
      native := ⟨.object, "Object"⟩, length := 1,
      behind := objectGroup.members, shared := objectPrototypeGroup, namesFirst := true },
    { intrinsic := .function, prototype := .functionPrototype, native := ⟨.function, "Function"⟩,
      length := 1, shared := functionPrototypeGroup },
    { intrinsic := .generatorFunction, prototype := .generatorFunctionPrototype,
      native := ⟨.function, "GeneratorFunction"⟩, length := 1, parent := .function },
    { intrinsic := .asyncFunction, prototype := .asyncFunctionPrototype,
      native := ⟨.function, "AsyncFunction"⟩, length := 1, parent := .function },
    { intrinsic := .asyncGeneratorFunction, prototype := .asyncGeneratorFunctionPrototype,
      native := ⟨.function, "AsyncGeneratorFunction"⟩, length := 1, parent := .function },
    { intrinsic := .error, prototype := .errorPrototype, native := ⟨.error, "Error"⟩, length := 1,
      behind := errorGroup.members, shared := errorPrototypeGroup },
    { intrinsic := .iterator, prototype := .iteratorPrototype, native := ⟨.iterator, "Iterator"⟩,
      length := 0, behind := iteratorGroup.members, shared := iteratorPrototypeGroup },
    { intrinsic := .array, prototype := .arrayPrototype, native := ⟨.array, "Array"⟩, length := 1,
      behind := arrayGroup.members, shared := arrayPrototypeGroup },
    { intrinsic := .number, prototype := .numberPrototype,
      native := ⟨.number, "Number"⟩, length := 1,
      behind := numberGroup.members, shared := numberPrototypeGroup },
    { intrinsic := .boolean, prototype := .booleanPrototype, native := ⟨.boolean, "Boolean"⟩,
      length := 1, shared := booleanPrototypeGroup },
    { intrinsic := .text, prototype := .textPrototype, native := ⟨.text, "String"⟩, length := 1,
      behind := textGroup.members, shared := textPrototypeGroup, namesFirst := true },
    { intrinsic := .symbol, prototype := .symbolPrototype,
      native := ⟨.symbol, "Symbol"⟩, length := 0,
      behind := symbolGroup.members, shared := symbolPrototypeGroup },
    { intrinsic := .date, prototype := .datePrototype, native := ⟨.date, "Date"⟩, length := 7,
      behind := dateGroup.members, shared := datePrototypeGroup },
    { intrinsic := .regex, prototype := .regexPrototype, native := ⟨.regex, "RegExp"⟩, length := 2,
      behind := regexGroup.members, shared := regexPrototypeGroup },
    { intrinsic := .map, prototype := .mapPrototype, native := ⟨.map, "Map"⟩, length := 0,
      before := mapGroup.members, shared := mapPrototypeGroup },
    { intrinsic := .set, prototype := .setPrototype, native := ⟨.set, "Set"⟩, length := 0,
      before := setGroup.members, shared := setPrototypeGroup },
    { intrinsic := .weakMap, prototype := .weakMapPrototype,
      native := ⟨.weak, "WeakMap"⟩, length := 0,
      shared := weakMapGroup },
    { intrinsic := .weakSet, prototype := .weakSetPrototype,
      native := ⟨.weak, "WeakSet"⟩, length := 0,
      shared := weakSetGroup },
    { intrinsic := .buffer, prototype := .bufferPrototype, native := ⟨.buffer, "ArrayBuffer"⟩,
      length := 1, behind := bufferGroup.members, shared := bufferPrototypeGroup },
    { intrinsic := .sharedBuffer, prototype := .sharedBufferPrototype,
      native := ⟨.buffer, "SharedArrayBuffer"⟩, length := 1, behind := sharedBufferGroup.members,
      shared := sharedBufferPrototypeGroup },
    { intrinsic := .view, prototype := .viewPrototype, native := ⟨.view, "TypedArray"⟩, length := 0,
      before := viewGroup.members, shared := viewPrototypeGroup },
    { intrinsic := .dataView, prototype := .dataViewPrototype, native := ⟨.dataView, "DataView"⟩,
      length := 1, shared := dataViewPrototypeGroup },
    { intrinsic := .promise, prototype := .promisePrototype, native := ⟨.promise, "Promise"⟩,
      length := 1, before := promiseGroup.members, shared := promisePrototypeGroup },
    { intrinsic := .bigInt, prototype := .bigIntPrototype,
      native := ⟨.bigInt, "BigInt"⟩, length := 1,
      behind := bigIntGroup.members, shared := bigIntPrototypeGroup },
    { intrinsic := .weakRef, prototype := .weakRefPrototype,
      native := ⟨.weak, "WeakRef"⟩, length := 1,
      shared := weakRefGroup },
    { intrinsic := .finalization, prototype := .finalizationPrototype,
      native := ⟨.weak, "FinalizationRegistry"⟩, length := 1, shared := finalizationGroup } ] ++
    specialErrors.map fun (name, intrinsic, prototype) =>
      { intrinsic := intrinsic, prototype := prototype, native := ⟨.error, name⟩
        length := if name = "AggregateError" then 2 else 1
        shared := specialErrorGroup name, parent := .error }
where
  specialErrors : List (String × Intrinsic × Intrinsic) :=
    [ ("EvalError", .evalError, .evalErrorPrototype),
      ("RangeError", .rangeError, .rangeErrorPrototype),
      ("ReferenceError", .referenceError, .referenceErrorPrototype),
      ("SyntaxError", .syntaxError, .syntaxErrorPrototype),
      ("TypeError", .typeError, .typeErrorPrototype),
      ("URIError", .uriError, .uriErrorPrototype),
      ("InternalError", .internalError, .internalErrorPrototype),
      ("AggregateError", .aggregateError, .aggregateErrorPrototype) ]

/-- The constructors of arrays that show buffers. -/
def arrayConstructors : List Constructor :=
  Element.all.map fun element =>
    let size : LibraryMember := .fixed "BYTES_PER_ELEMENT" (.ofNat element.size)
    { intrinsic := element.constructor, prototype := element.prototype
      native := ⟨.view, element.arrayName⟩, length := 3
      behind := [size], shared := ⟨.view, [size]⟩, parent := .view }

def allConstructors : List Constructor := constructors ++ arrayConstructors

/-! ### Objects at the start -/

/-- What an object is at the start. -/
def startKind (intrinsic : Intrinsic) : Kind :=
  match allConstructors.find? (·.intrinsic == intrinsic) with
  | some constructor => .native constructor.native
  | none =>
    match intrinsic with
    | .arrayPrototype => .array #[] 0 true
    | .functionPrototype => .native ⟨.functionPrototype, ""⟩
    | .textPrototype => .wrapped (.text .empty)
    | .numberPrototype => .wrapped (.number 0)
    | .booleanPrototype => .wrapped (.bool false)
    | .arrayValues => .native ⟨.arrayPrototype, "values"⟩
    | .refusal => .native ⟨.functionPrototype, "refuse"⟩
    | .proxy => .native ⟨.proxy, "Proxy"⟩
    | _ => .ordinary

/-- What an object other than a constructor inherits from at the start. -/
def startParent (intrinsic : Intrinsic) : Option Intrinsic :=
  match intrinsic with
  | .objectPrototype | .unscopables => none
  | .evalErrorPrototype | .rangeErrorPrototype | .referenceErrorPrototype | .syntaxErrorPrototype
  | .typeErrorPrototype | .uriErrorPrototype | .internalErrorPrototype | .aggregateErrorPrototype =>
    some .errorPrototype
  | .arrayIteratorPrototype | .mapIteratorPrototype | .setIteratorPrototype | .textIteratorPrototype
  | .matchIteratorPrototype | .helperPrototype | .wrapperPrototype | .generatorPrototype =>
    some .iteratorPrototype
  | .asyncGeneratorPrototype => some .asyncIteratorPrototype
  | .generatorFunctionPrototype | .asyncFunctionPrototype | .asyncGeneratorFunctionPrototype
  | .arrayValues | .refusal | .proxy => some .functionPrototype
  | other =>
    if Element.all.any (·.prototype == other) then some .viewPrototype else some .objectPrototype

def startObject (intrinsic : Intrinsic) : Object :=
  let parent := match allConstructors.find? (·.intrinsic == intrinsic) with
    | some constructor => some constructor.parent
    | none => startParent intrinsic
  .ofKind (parent.map (·.ref)) (startKind intrinsic)

/-- The state in which objects have no properties yet. -/
def bareMachine : Machine where
  objects := (Intrinsic.all.map startObject).toArray
  scopes := #[⟨none, #[], none⟩]
  frames := #[⟨some Intrinsic.global.value, none, .undefined, none⟩]
  library := .empty
  symbols :=
    (WellKnownSymbol.all.map fun (_, name) => some (Units.ofString ("Symbol." ++ name))).toArray
  registered := []
  hiddenNames := #[default]
  completion := .undefined
  callers := []
  stack := 0
  templates := []
  heldScopes := 1
  heldFrames := 1
  clock := 0
  untilCheck := 0
  deadline := 0
  memory := none
  seed := 88172645463325252

/-! ### Properties at the start -/

def newNative (native : Native) (name : String) (length : Nat) : M Value := do
  return .object (← allocate
    ⟨some Intrinsic.functionPrototype.ref, .native native,
      functionProperties (Units.ofString name) length, true⟩)

/-- The name of a function under a symbol. -/
def symbolLabel (symbol : WellKnownSymbol) : String :=
  match WellKnownSymbol.all.lookup symbol with
  | some name => "[Symbol." ++ name ++ "]"
  | none => ""

/-- The value that an object has under a key. -/
def startValue (target : Intrinsic) (key : Key) : M Value := do
  match (← getObject target.ref).properties.get? key with
  | some ⟨.data value _, _, _⟩ => return value
  | _ => return .undefined

/-- Methods under some symbols can be changed less than others. -/
def symbolMethod (symbol : WellKnownSymbol) (function : Value) : Property :=
  match symbol with
  | .hasInstance => .fixed function
  | .toPrimitive => ⟨.data function false, false, true⟩
  | _ => .unlisted function

def addMember (target : Intrinsic) (library : Library) (member : LibraryMember) : M Unit := do
  let add (key : Key) (property : Property) : M Unit := putProperty target.ref key property
  let reader (name : String) : M Value := newNative ⟨library, "get " ++ name⟩ ("get " ++ name) 0
  let writer (name : String) : M Value := newNative ⟨library, "set " ++ name⟩ ("set " ++ name) 1
  match member with
  | .method name length => add (.ofUnits name) (.unlisted (← newNative ⟨library, name⟩ name length))
  | .keyed symbol length =>
    let name := symbolLabel symbol
    add symbol.key (symbolMethod symbol (← newNative ⟨library, name⟩ name length))
  | .getter name => add (.ofUnits name) ⟨.accessor (← reader name) .undefined, false, true⟩
  | .accessor name => add (.ofUnits name) ⟨.accessor (← reader name) (← writer name), false, true⟩
  | .keyedGetter symbol =>
    add symbol.key ⟨.accessor (← reader (symbolLabel symbol)) .undefined, false, true⟩
  | .keyedAccessor symbol =>
    let name := symbolLabel symbol
    add symbol.key ⟨.accessor (← reader name) (← writer name), false, true⟩
  | .alias name source => add (.ofUnits name) (.unlisted (← startValue target (.ofUnits source)))
  | .keyedAlias symbol source => add symbol.key (.unlisted (← startValue target (.ofUnits source)))
  | .global name => add (.ofUnits name) (.unlisted (← startValue .global (.ofUnits name)))
  | .data name value => add (.ofUnits name) (.unlisted value)
  | .locked name value => add (.ofUnits name) ⟨.data value false, false, true⟩
  | .fixed name value => add (.ofUnits name) (.fixed value)
  | .keyedData symbol value => add symbol.key ⟨.data value false, false, true⟩
  | .tag text =>
    add WellKnownSymbol.toStringTag.key ⟨.data (.ofText text) false, false, true⟩

def addGroup (target : Intrinsic) (group : LibraryGroup) : M Unit :=
  group.members.forM (addMember target group.library)

def addFunctionProperties (target : Intrinsic) (name : String) (length : Nat) : M Unit :=
  modifyObject target.ref fun object =>
    { object with properties := functionProperties (Units.ofString name) length }

def addConstructor (constructor : Constructor) : M Unit := do
  let target := constructor.intrinsic
  let name (property : Property) : M Unit :=
    putProperty constructor.prototype.ref "constructor" property
  addFunctionProperties target constructor.native.name constructor.length
  addGroup target ⟨constructor.native.library, constructor.before⟩
  putProperty target.ref "prototype" (.fixed constructor.prototype.value)
  addGroup target ⟨constructor.native.library, constructor.behind⟩
  if constructor.namesFirst then name (.unlisted target.value)
  addGroup constructor.prototype constructor.shared
  unless constructor.namesFirst do name (.unlisted target.value)

/-- The properties of all functions that strict functions refuse. -/
def addFunctionParts : M Unit := do
  addFunctionProperties .functionPrototype "" 0
  let refusal := Intrinsic.refusal.value
  for name in ["caller", "arguments"] do
    putProperty Intrinsic.functionPrototype.ref (.ofUnits name)
      ⟨.accessor refusal refusal, false, true⟩
  addFunctionProperties .arrayValues "values" 0
  modifyObject Intrinsic.refusal.ref fun object =>
    { object with
      properties := (PropertyTable.empty.set "length" (.fixed (.ofNat 0))).set "name"
        (.fixed (.text .empty))
      extensible := false }

/-- Gives the functions of generators the object that their products inherit from. -/
def addProducts (functions products : Intrinsic) (tag : String) : M Unit := do
  let locked (value : Value) : Property := ⟨.data value false, false, true⟩
  addMember functions .function (.tag tag)
  putProperty functions.ref "prototype" (locked products.value)
  putProperty products.ref "constructor" (locked functions.value)

def addGeneratorParts : M Unit := do
  addGroup .generatorPrototype generatorPrototypeGroup
  addGroup .asyncGeneratorPrototype asyncGeneratorPrototypeGroup
  addGroup .asyncIteratorPrototype asyncIteratorPrototypeGroup
  addGroup .helperPrototype helperPrototypeGroup
  addGroup .wrapperPrototype wrapperPrototypeGroup
  CursorSort.all.forM fun sort => do
    let next ← newNative ⟨.cursorPrototype, sort.label⟩ "next" 0
    putProperty sort.prototype.ref "next" (.unlisted next)
    addMember sort.prototype .cursorPrototype (.tag sort.label)
  addProducts .generatorFunctionPrototype .generatorPrototype "GeneratorFunction"
  addProducts .asyncGeneratorFunctionPrototype .asyncGeneratorPrototype "AsyncGeneratorFunction"
  addMember .asyncFunctionPrototype .function (.tag "AsyncFunction")

/-- The constructors of functions cannot be exchanged. -/
def lockConstructors : M Unit := do
  let pairs : List (Intrinsic × Intrinsic) :=
    [(.generatorFunctionPrototype, .generatorFunction), (.asyncFunctionPrototype, .asyncFunction),
      (.asyncGeneratorFunctionPrototype, .asyncGeneratorFunction)]
  pairs.forM fun (prototype, constructor) =>
    putProperty prototype.ref "constructor" ⟨.data constructor.value false, false, true⟩

def addPerformance : M Unit := do
  let now ← newNative ⟨.performance, "now"⟩ "now" 0
  putProperty Intrinsic.performance.ref "now" ⟨.data now false, true, false⟩
  putProperty Intrinsic.performance.ref "timeOrigin" ⟨.data (.number timeOrigin) false, true, false⟩
  putProperty Intrinsic.global.ref "performance" (.plain Intrinsic.performance.value)

def addEverything : M Unit := do
  addGroup .global globalGroup
  addFunctionParts
  addGeneratorParts
  constructors.forM addConstructor
  lockConstructors
  let text ← startValue .arrayPrototype "toString"
  putProperty Intrinsic.viewPrototype.ref "toString" (.unlisted text)
  arrayConstructors.forM addConstructor
  unscopableNames.forM fun name =>
    putProperty Intrinsic.unscopables.ref (.ofUnits name) (.plain (.bool true))
  addGroup .math mathematicsGroup
  addGroup .json jsonGroup
  addGroup .reflect reflectGroup
  addGroup .atomics atomicsGroup
  addFunctionProperties .proxy "Proxy" 2
  addGroup .proxy proxyGroup
  addPerformance

/-- The state in which scripts start. What was done to make it takes no time. -/
def startMachine : Machine :=
  match addEverything.run bareMachine with
  | .ok _ machine | .error _ machine => { machine with clock := 0, untilCheck := 0 }

end Fingerprint.Script
