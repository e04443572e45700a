import Fingerprint.Script.Library.Arrays
import Fingerprint.Script.Library.Buffers

/-!
The functions of arrays of numbers that show the bytes of a buffer.

What they share with other arrays is left to the methods of those.
-/

namespace Fingerprint.Script

namespace Element

/-- The constructor of the arrays of an element. -/
def constructor : Element → Intrinsic
  | .uint8Clamped => .uint8Clamped
  | .int8 => .int8
  | .uint8 => .uint8
  | .int16 => .int16
  | .uint16 => .uint16
  | .int32 => .int32
  | .uint32 => .uint32
  | .bigInt64 => .bigInt64
  | .bigUint64 => .bigUint64
  | .float16 => .float16
  | .float32 => .float32
  | .float64 => .float64

/-- What the arrays of an element inherit from. -/
def prototype : Element → Intrinsic
  | .uint8Clamped => .uint8ClampedPrototype
  | .int8 => .int8Prototype
  | .uint8 => .uint8Prototype
  | .int16 => .int16Prototype
  | .uint16 => .uint16Prototype
  | .int32 => .int32Prototype
  | .uint32 => .uint32Prototype
  | .bigInt64 => .bigInt64Prototype
  | .bigUint64 => .bigUint64Prototype
  | .float16 => .float16Prototype
  | .float32 => .float32Prototype
  | .float64 => .float64Prototype

/-- The name of the arrays of an element. -/
def arrayName (element : Element) : String := element.name ++ "Array"

/-- The element of the arrays that have a name. -/
def ofArrayName? (name : String) : Option Element := all.find? (·.arrayName == name)

end Element

namespace Standard

/-- An array that shows a buffer. -/
structure ShownArray where
  ref : Ref
  view : View

/-- The array that a value is. -/
def shownArray (value : Value) : M ShownArray := do
  match value with
  | .object ref =>
    match (← getObject ref).kind with
    | .view view => return ⟨ref, view⟩
    | _ => throwType "not a TypedArray"
  | _ => throwType "not a TypedArray"

def ShownArray.isOutside (array : ShownArray) : M Bool := do
  let buffer ← bufferOf array.view.buffer
  return buffer.isDetached || array.view.isOutside buffer.bytes.size

/-- The array that a value is, if its buffer has all of its bytes, with the number of items. -/
def validArray (value : Value) : M (ShownArray × Nat) := do
  let array ← shownArray value
  if ← array.isOutside then throwOutside
  return (array, ← viewCount array.view)

/-- The items of an array that shows a buffer. -/
def shownItems (view : View) : M (Array Value) := do
  let bytes := (← bufferOf view.buffer).bytes
  return ((List.range (← viewCount view)).map fun place =>
    view.element.read bytes (view.offset + place * view.element.size) true).toArray

/-! ### Making arrays -/

/-- An array of zeros with a buffer of its own. -/
def newShownArray (prototype : Ref) (element : Element) (count : Nat) : M Value := do
  let buffer ← newBuffer Intrinsic.bufferPrototype.ref (count * element.size) none false
  return .object (← allocate (.ofKind (some prototype) (.view ⟨element, buffer, 0, some count⟩)))

variable (it : Interpreter)

/-- Puts an item into an array; a place outside of it is passed over. -/
def putShown (array : Value) (place : Nat) (value : Value) : M Unit := do
  setOf it true array (.index place) value

def fillShown (array : Value) (items : Array Value) : M Unit :=
  items.toList.zipIdx.forM fun (item, place) => putShown it array place item

/-- An array that shows a part of a buffer. -/
def showBuffer (call : LibraryCall) (element : Element) (ref : Ref) : M Value := do
  let offset ← toIndex it call.second
  let buffer ← bufferOf ref
  if buffer.isDetached then throwDetached
  let size := buffer.bytes.size
  if offset % element.size ≠ 0 || size < offset then throwRange "invalid offset"
  let length ← match call.argument 2 with
    | .undefined =>
      if buffer.largest.isSome then pure none
      else
        if size % element.size ≠ 0 then throwRange "invalid length"
        pure (some ((size - offset) / element.size))
    | value =>
      let length ← toIndex it value
      if (← bufferOf ref).isDetached then throwDetached
      if size < offset + length * element.size then throwRange "invalid length"
      pure (some length)
  let prototype ← prototypeFor it call.newTarget element.prototype
  return .object (← allocate (.ofKind (some prototype) (.view ⟨element, ref, offset, length⟩)))

/-- The items of an object: those that it yields if it can be iterated over, or those of its
places. -/
def sourceItems (source : Value) : M (Array Value) := do
  match ← methodOf? it source WellKnownSymbol.iterator.key with
  | some _ => listOf it source
  | none => listItems it (← toObject source)

/-- An array with the items of an object. -/
def copyItems (call : LibraryCall) (element : Element) (items : Array Value) : M Value := do
  let prototype ← prototypeFor it call.newTarget element.prototype
  let made ← newShownArray prototype element items.size
  fillShown it made items
  return made

def newViewOf (call : LibraryCall) (element : Element) : M Value := do
  unless call.isConstruction do throwType "must be called with new"
  match call.first with
  | .object ref =>
    match (← getObject ref).kind with
    | .buffer _ => showBuffer it call element ref
    | .view view =>
      let _ ← validArray call.first
      copyItems it call element (← shownItems view)
    | _ => copyItems it call element (← sourceItems it call.first)
  | value =>
    let count ← toIndex it value
    newShownArray (← prototypeFor it call.newTarget element.prototype) element count

/-- An array that a constructor makes for some number of items. -/
def arrayOfConstructor (constructor : Value) (arguments : Array Value) : M Value := do
  let made ← it.construct constructor arguments constructor
  let (_, count) ← validArray made
  match arguments.toList with
  | [.number wanted] =>
    if Float.ofNat count < wanted then throwType "TypedArray length is too small"
  | _ => pure ()
  return made

/-- An array that is made from another one. -/
def arrayMadeFrom (array : ShownArray) (arguments : Array Value) : M Value := do
  let standard := array.view.element.constructor.value
  arrayOfConstructor it (← speciesOf it (.object array.ref) standard) arguments

/-- An ordinary array of the same element. -/
def sameArray (array : ShownArray) (items : Array Value) : M Value := do
  let element := array.view.element
  let made ← newShownArray element.prototype.ref element items.size
  fillShown it made items
  return made

def viewFrom (call : LibraryCall) : M Value := do
  unless ← isConstructor call.this do throwType "not a constructor"
  unless call.second.isUndefined do
    let _ ← requireCallable call.second
  let items ← sourceItems it call.first
  let made ← arrayOfConstructor it call.this #[.ofNat items.size]
  items.toList.zipIdx.forM fun (item, place) => do
    let item ← if call.second.isUndefined then pure item
      else it.call call.second (call.argument 2) #[item, .ofNat place]
    putShown it made place item
  return made

def viewOf (call : LibraryCall) : M Value := do
  unless ← isConstructor call.this do throwType "not a constructor"
  let made ← arrayOfConstructor it call.this #[.ofNat call.arguments.size]
  fillShown it made call.arguments
  return made

def view : LibraryCode := fun name call => do
  match name with
  | "from" => viewFrom it call
  | "of" => viewOf it call
  | "get [Symbol.species]" => return call.this
  | name =>
    match Element.ofArrayName? name with
    | some element => newViewOf it call element
    | none => throwType "cannot be called"

def viewGroup : LibraryGroup :=
  ⟨.view, [.method "from" 1, .method "of" 0, .keyedGetter .species]⟩

/-! ### Methods -/

/-- A place that an argument denotes, counted from the end if it is negative. -/
def signedPlace (value : Value) (length : Nat) : M (Option Nat) := do
  let number ← toIntegral it value
  let place := if number < 0 then number + Float.ofNat length else number
  return if 0 ≤ place && place < Float.ofNat length then some place.toUInt64.toNat else none

def setAll (array : ShownArray) (call : LibraryCall) : M Value := do
  let offset ← toIntegral it call.second
  if offset < 0 then throwRange "invalid array length"
  if ← array.isOutside then throwOutside
  let count ← viewCount array.view
  let source ← toObject call.first
  let length ← match (← getObject source).kind with
    | .view view => do
      let _ ← validArray (.object source)
      viewCount view
    | _ => lengthOf it source
  if Float.ofNat count < offset + Float.ofNat length then throwRange "invalid array length"
  let offset := offset.toUInt64.toNat
  match (← getObject source).kind with
  | .view view =>
    (← shownItems view).toList.zipIdx.forM fun (item, place) =>
      putShown it (.object array.ref) (offset + place) item
  | _ =>
    (List.range length).forM fun place => do
      putShown it (.object array.ref) (offset + place) (← getProperty it source (.index place))
  return .undefined

def subarray (array : ShownArray) (call : LibraryCall) : M Value := do
  let count ← viewCount array.view
  let start ← placeArgument it call.first count 0
  let offset := Value.ofNat (array.view.offset + start * array.view.element.size)
  if call.second.isUndefined && array.view.length.isNone then
    arrayMadeFrom it array #[.object array.view.buffer, offset]
  else
    let stop ← placeArgument it call.second count count
    arrayMadeFrom it array #[.object array.view.buffer, offset, .ofNat (stop - start)]

def sliceShown (array : ShownArray) (count : Nat) (call : LibraryCall) : M Value := do
  let start ← placeArgument it call.first count 0
  let stop ← placeArgument it call.second count count
  let made ← arrayMadeFrom it array #[.ofNat (stop - start)]
  if start < stop then
    let (array, _) ← validArray (.object array.ref)
    fillShown it made ((← shownItems array.view).extract start stop)
  return made

def fillRange (array : ShownArray) (count : Nat) (call : LibraryCall) : M Value := do
  let value ← toElement it array.view.element call.first
  let start ← placeArgument it call.second count 0
  let stop ← placeArgument it (call.argument 2) count count
  let (_, count) ← validArray (.object array.ref)
  (List.range (min stop count - start)).forM fun offset =>
    putElement array.view (start + offset) value
  return .object array.ref

def mapShown (array : ShownArray) (count : Nat) (call : LibraryCall) : M Value := do
  let function ← requireCallable call.first
  let made ← arrayMadeFrom it array #[.ofNat count]
  (List.range count).forM fun place => do
    let item ← getProperty it array.ref (.index place)
    let result ← it.call function call.second #[item, .ofNat place, .object array.ref]
    putShown it made place result
  return made

def filterShown (array : ShownArray) (count : Nat) (call : LibraryCall) : M Value := do
  let function ← requireCallable call.first
  let kept ← (List.range count).filterMapM fun place => do
    let item ← getProperty it array.ref (.index place)
    let isKept ← it.call function call.second #[item, .ofNat place, .object array.ref]
    return if isKept.isTruthy then some item else none
  let made ← arrayMadeFrom it array #[.ofNat kept.length]
  fillShown it made kept.toArray
  return made

/-- The order of two numbers: the negative zero is less than the positive one, and what is no number
comes last. -/
def orderOfElements (left right : Value) : Int :=
  match left, right with
  | .bigInt left, .bigInt right => if left < right then -1 else if right < left then 1 else 0
  | .number left, .number right =>
    if left.isNaN then (if right.isNaN then 0 else 1)
    else if right.isNaN then -1
    else if left < right then -1
    else if right < left then 1
    else if left == 0 then
      let weight (zero : Float) : Int := if zero.toBits == 0 then 1 else 0
      weight left - weight right
    else 0
  | _, _ => 0

/-- Compares items by a function, or as numbers; what is the same keeps its order. -/
def compareShown (function : Value) (left right : Value × Nat) : M Int := do
  let order : Float ←
    if function.isUndefined then pure (Float.ofInt (orderOfElements left.1 right.1))
    else toNumber it (← it.call function .undefined #[left.1, right.1])
  if order < 0 then return -1
  else if 0 < order then return 1
  else return (left.2 : Int) - right.2

def sortedShown (array : ShownArray) (function : Value) : M (Array Value) := do
  let items ← shownItems array.view
  return (← sortBy (compareShown it function) items.zipIdx).map (·.1)

def sortShown (array : ShownArray) (function : Value) : M Value := do
  let sorted ← sortedShown it array function
  sorted.toList.zipIdx.forM fun (item, place) => putElement array.view place item
  return .object array.ref

def withShown (array : ShownArray) (count : Nat) (call : LibraryCall) : M Value := do
  let place ← signedPlace it call.first count
  let value ← toElement it array.view.element call.second
  match place, ← array.isOutside with
  | some place, false =>
    let made ← sameArray it array (← shownItems array.view)
    putShown it made place value
    return made
  | _, _ => throwRange "invalid array index"

/-- What can be asked of any array, also of one whose buffer is too short. -/
def shownProperty (name : String) (this : Value) : M Value := do
  if name = "get [Symbol.toStringTag]" then
    match this with
    | .object ref =>
      match (← getObject ref).kind with
      | .view view => return .ofText view.element.arrayName
      | _ => return .undefined
    | _ => return .undefined
  let array ← shownArray this
  let count ← viewCount array.view
  match name with
  | "get length" => return .ofNat count
  | "get buffer" => return .object array.view.buffer
  | "get byteLength" => return .ofNat (count * array.view.element.size)
  | _ => return .ofNat (if ← array.isOutside then 0 else array.view.offset)

def viewPrototype : LibraryCode := fun name call => do
  match name with
  | "get length" | "get buffer" | "get byteLength" | "get byteOffset" |
    "get [Symbol.toStringTag]" =>
    shownProperty name call.this
  | "set" => setAll it (← shownArray call.this) call
  | "subarray" => subarray it (← shownArray call.this) call
  | name =>
    if name == "sort" || name == "toSorted" then requireComparison call.first
    let (array, count) ← validArray call.this
    match name with
    | "slice" => sliceShown it array count call
    | "fill" => fillRange it array count call
    | "map" => mapShown it array count call
    | "filter" => filterShown it array count call
    | "sort" => sortShown it array call.first
    | "toSorted" => sameArray it array (← sortedShown it array call.first)
    | "toReversed" => sameArray it array (← shownItems array.view).reverse
    | "with" => withShown it array count call
    | name => arrayPrototype it name call

def viewPrototypeGroup : LibraryGroup where
  library := .viewPrototype
  members :=
    [ .getter "length", .method "at" 1, .method "with" 2, .getter "buffer", .getter "byteLength",
      .getter "byteOffset", .method "set" 1, .method "values" 0, .keyedAlias .iterator "values",
      .method "keys" 0, .method "entries" 0, .keyedGetter .toStringTag, .method "copyWithin" 2,
      .method "every" 1, .method "some" 1, .method "forEach" 1, .method "map" 1,
      .method "filter" 1, .method "reduce" 1, .method "reduceRight" 1, .method "fill" 1,
      .method "find" 1, .method "findIndex" 1, .method "findLast" 1, .method "findLastIndex" 1,
      .method "reverse" 0, .method "toReversed" 0, .method "slice" 2, .method "subarray" 2,
      .method "sort" 1, .method "toSorted" 1, .method "join" 1, .method "toLocaleString" 0,
      .method "indexOf" 1, .method "lastIndexOf" 1, .method "includes" 1 ]

/-! ### Operations that nobody can come between -/

/-- The place of an array of integers that an operation works on. -/
def atomicPlace (call : LibraryCall) : M (ShownArray × Nat) := do
  let expected {α : Type} : M α := throwType "integer TypedArray expected"
  let .object ref := call.first | expected
  let .view view := (← getObject ref).kind | expected
  match view.element with
  | .uint8Clamped | .float16 | .float32 | .float64 => expected
  | _ => pure ()
  let (array, count) ← validArray call.first
  let place ← toIndex it call.second
  unless place < count do throwRange "out-of-bound access"
  return (array, place)

/-- What an operation makes of the value that is there and its operand. -/
def atomicResult (name : String) (before operand : Int) : Int :=
  match name with
  | "add" => before + operand
  | "sub" => before - operand
  | "and" => onBits (· &&& ·) before operand
  | "or" => onBits (· ||| ·) before operand
  | "xor" => onBits (· ^^^ ·) before operand
  | _ => operand

def integerIn (value : Value) : Int :=
  match value with
  | .bigInt value => value
  | .number value => Number.toInt (Number.integral value)
  | _ => 0

/-- An integer as a value of an element. -/
def integerValue (element : Element) (value : Int) : Value :=
  if element.isBig then .bigInt value else .ofInt value

def atomicChange (name : String) (call : LibraryCall) : M Value := do
  let (array, place) ← atomicPlace it call
  let view := array.view
  let operand ← toElement it view.element (call.argument 2)
  let other ← if name = "compareExchange" then toElement it view.element (call.argument 3)
    else pure operand
  let before := (← readElement view place).getD .undefined
  let write (value : Int) : M Unit := putElement view place (integerValue view.element value)
  let word (value : Value) : Nat := view.element.toWord value
  if name = "compareExchange" then
    if word operand = word before then write (integerIn other)
    return before
  else
    write (atomicResult name (integerIn before) (integerIn operand))
    return if name = "store" then integerValue view.element (integerIn operand) else before

def atomics : LibraryCode := fun name call => do
  match name with
  | "load" =>
    let (array, place) ← atomicPlace it call
    return (← readElement array.view place).getD .undefined
  | "isLockFree" =>
    let size ← toIntegral it call.first
    return .bool (size == 1 || size == 2 || size == 4 || size == 8)
  | "pause" => return .undefined
  | "wait" => throwType "cannot block in this thread"
  | "notify" =>
    let _ ← atomicPlace it call
    return .ofNat 0
  | name => atomicChange it name call

def atomicsGroup : LibraryGroup := (LibraryGroup.ofList .atomics
  [("add", 3), ("and", 3), ("or", 3), ("sub", 3), ("xor", 3), ("exchange", 3),
    ("compareExchange", 4), ("load", 2), ("store", 3), ("isLockFree", 1), ("pause", 0),
    ("wait", 4), ("notify", 3)]).append [.tag "Atomics"]

end Standard

end Fingerprint.Script
