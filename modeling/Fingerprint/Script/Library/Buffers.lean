import Fingerprint.Script.Library.Basic

/-!
The functions of buffers of bytes, and of the views that read and write numbers at any place of
them.
-/

namespace Fingerprint.Script.Standard

def throwDetached {α : Type} : M α := throwType "ArrayBuffer is detached"

def throwOutside {α : Type} : M α := throwType "ArrayBuffer is detached or resized"

/-- The number of bytes that no buffer has. -/
def bufferLimit : Nat := 2147483648

/-- The number of bytes from which on there is never enough memory. -/
def bufferMemory : Nat := 67108864

/-- Makes a buffer of zeros. -/
def newBuffer (prototype : Ref) (count : Nat) (largest : Option Nat) (isShared : Bool) : M Ref := do
  if bufferLimit ≤ count then throwRange "invalid array buffer length"
  reserve count
  if bufferMemory ≤ count then throwMemory
  let bytes := ByteArray.mk (Array.replicate count 0)
  allocate (.ofKind (some prototype) (.buffer ⟨bytes, largest, false, isShared⟩))

/-- The buffer that an object is. -/
def bufferIn (value : Value) : M (Option (Ref × Buffer)) := do
  match value with
  | .object ref =>
    match (← getObject ref).kind with
    | .buffer buffer => return some (ref, buffer)
    | _ => return none
  | _ => return none

/-- The buffer, shared or not, that a method is called on. -/
def thisBuffer (this : Value) (isShared : Bool) : M (Ref × Buffer) := do
  match ← bufferIn this with
  | some (ref, buffer) =>
    if buffer.isShared == isShared then return (ref, buffer) else missing
  | none => missing
where
  missing : M (Ref × Buffer) := throwClass (if isShared then "SharedArrayBuffer" else "ArrayBuffer")

/-- Changes the number of bytes; new ones are zeros. -/
def resizeBytes (bytes : ByteArray) (count : Nat) : ByteArray :=
  let kept := bytes.extract 0 count
  kept ++ ByteArray.mk (Array.replicate (count - kept.size) 0)

def detach (ref : Ref) : M Unit :=
  modifyObject ref fun object =>
    match object with
    | ⟨prototype, .buffer ⟨_, _, _, isShared⟩, properties, extensible⟩ =>
      ⟨prototype, .buffer ⟨.empty, none, true, isShared⟩, properties, extensible⟩
    | other => other

variable (it : Interpreter)

/-! ### Making buffers -/

/-- The number of bytes that a buffer can grow to. -/
def largestSize (options : Value) (count : Nat) : M (Option Nat) := do
  match options with
  | .object ref =>
    match ← getProperty it ref "maxByteLength" with
    | .undefined => return none
    | value =>
      let largest ← toIntegral it value
      if largest < Float.ofNat count || 9007199254740991 < largest then
        throwRange "invalid array buffer max length"
      return some largest.toUInt64.toNat
  | _ => return none

def newBufferOf (call : LibraryCall) (isShared : Bool) : M Value := do
  unless call.isConstruction do throwType "must be called with new"
  let count ← toIndex it call.first
  let largest ← largestSize it call.second count
  let prototype ← prototypeFor it call.newTarget
    (if isShared then .sharedBufferPrototype else .bufferPrototype)
  return .object (← newBuffer prototype count largest isShared)

def isView (value : Value) : M Bool := do
  match value with
  | .object ref =>
    match (← getObject ref).kind with
    | .view _ | .dataView _ => return true
    | _ => return false
  | _ => return false

def buffer : LibraryCode := fun name call => do
  match name with
  | "isView" => return .bool (← isView call.first)
  | "get [Symbol.species]" => return call.this
  | "SharedArrayBuffer" => newBufferOf it call true
  | _ => newBufferOf it call false

def bufferGroup : LibraryGroup := ⟨.buffer, [.method "isView" 1, .keyedGetter .species]⟩

def sharedBufferGroup : LibraryGroup := ⟨.buffer, [.keyedGetter .species]⟩

/-! ### Methods of buffers -/

def resizeBuffer (ref : Ref) (buffer : Buffer) (size : Value) : M Value := do
  let count ← toIntegral it size
  if buffer.isDetached then throwDetached
  let some largest := buffer.largest | throwType "array buffer is not resizable"
  let least := if buffer.isShared then buffer.bytes.size else 0
  if count < Float.ofNat least || Float.ofNat largest < count then
    throwRange "invalid array buffer length"
  let count := count.toUInt64.toNat
  reserve count
  modifyBytes ref (resizeBytes · count)
  return .undefined

/-- The buffer that a method of another one makes. -/
def bufferMadeBy (this : Value) (isShared : Bool) (count : Nat) : M Value := do
  match ← speciesOf it this .undefined with
  | .undefined =>
    let prototype := if isShared then Intrinsic.sharedBufferPrototype else .bufferPrototype
    return .object (← newBuffer prototype.ref count none isShared)
  | constructor => it.construct constructor #[.ofNat count] constructor

def sliceBuffer (buffer : Buffer) (call : LibraryCall) : M Value := do
  if buffer.isDetached then throwDetached
  let length := buffer.bytes.size
  let start ← placeArgument it call.first length 0
  let stop ← placeArgument it call.second length length
  let made ← bufferMadeBy it call.this buffer.isShared (stop - start)
  let (ref, target) ← thisBuffer made buffer.isShared
  if made.same call.this then throwType "cannot use identical ArrayBuffer"
  if target.isDetached then throwDetached
  if target.bytes.size < stop - start then throwType "new ArrayBuffer is too small"
  let (_, source) ← thisBuffer call.this buffer.isShared
  let part := source.bytes.extract start stop
  modifyBytes ref fun bytes => part ++ bytes.extract part.size bytes.size
  return made

/-- Moves the bytes of a buffer to a new one. -/
def transferBuffer (ref : Ref) (size : Value) (keepsLargest : Bool) : M Value := do
  let (_, buffer) ← thisBuffer (.object ref) false
  let count ← if size.isUndefined then pure buffer.bytes.size else toIndex it size
  if buffer.isDetached then throwDetached
  let largest := if keepsLargest then buffer.largest else none
  if largest.any (· < count) then throwRange "invalid array buffer length"
  let made ← newBuffer Intrinsic.bufferPrototype.ref count largest false
  modifyBytes made fun _ => resizeBytes buffer.bytes count
  detach ref
  return .object made

def bufferMethod (isShared : Bool) : LibraryCode := fun name call => do
  let (ref, buffer) ← thisBuffer call.this isShared
  match name with
  | "get byteLength" => return .ofNat buffer.bytes.size
  | "get maxByteLength" => return .ofNat (buffer.largest.getD buffer.bytes.size)
  | "get resizable" | "get growable" => return .bool buffer.largest.isSome
  | "get detached" => return .bool buffer.isDetached
  | "resize" | "grow" => resizeBuffer it ref buffer call.first
  | "transfer" => transferBuffer it ref call.first true
  | "transferToFixedLength" => transferBuffer it ref call.first false
  | _ => sliceBuffer it buffer call

def bufferPrototypeGroup : LibraryGroup where
  library := .bufferPrototype
  members :=
    [ .getter "byteLength", .getter "maxByteLength", .getter "resizable", .getter "detached",
      .method "resize" 1, .method "slice" 2, .method "transfer" 0,
      .method "transferToFixedLength" 0, .tag "ArrayBuffer" ]

def sharedBufferPrototypeGroup : LibraryGroup where
  library := .sharedBufferPrototype
  members :=
    [ .getter "byteLength", .getter "maxByteLength", .getter "growable", .method "grow" 1,
      .method "slice" 2, .tag "SharedArrayBuffer" ]

/-! ### Numbers at any place -/

def dataView : LibraryCode := fun _ call => do
  unless call.isConstruction do throwType "must be called with new"
  let some (ref, _) ← bufferIn call.first | throwClass "ArrayBuffer"
  let offset ← toIndex it call.second
  let buffer ← bufferOf ref
  if buffer.isDetached then throwDetached
  let size := buffer.bytes.size
  if size < offset then throwRange "invalid byteOffset"
  let length ← match call.argument 2 with
    | .undefined => pure (if buffer.largest.isSome then none else some (size - offset))
    | value =>
      let length ← toIndex it value
      if size - offset < length then throwRange "invalid byteLength"
      pure (some length)
  let prototype ← prototypeFor it call.newTarget .dataViewPrototype
  return .object (← allocate (.ofKind (some prototype) (.dataView ⟨.uint8, ref, offset, length⟩)))

/-- The kind of number that a method reads or writes. -/
def elementOfMethod? (name : String) : Option (Element × Bool) :=
  Element.all.findSome? fun element =>
    if name = "get" ++ element.name then some (element, false)
    else if name = "set" ++ element.name then some (element, true)
    else none

/-- The bytes behind a view, from its start on, if there are `count` at a place of it. -/
def placeInView (view : View) (place count : Nat) : M Nat := do
  let buffer ← bufferOf view.buffer
  if buffer.isDetached then throwDetached
  if view.count buffer.bytes.size < place + count then
    if view.isOutside buffer.bytes.size then throwOutside else throwRange "out of bound"
  return view.offset + place

def dataViewMethod (view : View) (name : String) (call : LibraryCall) : M Value := do
  match name, elementOfMethod? name with
  | _, some (element, false) =>
    let place ← toIndex it call.first
    let place ← placeInView view place element.size
    return element.read (← bufferOf view.buffer).bytes place call.second.isTruthy
  | _, some (element, true) =>
    let place ← toIndex it call.first
    let value ← toElement it element call.second
    let place ← placeInView view place element.size
    modifyBytes view.buffer fun bytes =>
      element.write bytes place (call.argument 2).isTruthy value
    return .undefined
  | "get buffer", none => return .object view.buffer
  | name, none =>
    let buffer ← bufferOf view.buffer
    if buffer.isDetached then throwDetached
    if view.isOutside buffer.bytes.size then throwOutside
    return .ofNat (if name = "get byteLength" then view.count buffer.bytes.size else view.offset)

def dataViewPrototype : LibraryCode := fun name call => do
  match call.this with
  | .object ref =>
    match (← getObject ref).kind with
    | .dataView view => dataViewMethod it view name call
    | _ => throwClass "DataView"
  | _ => throwClass "DataView"

/-- The elements in the order in which their methods are listed. -/
def listedElements : List Element :=
  [ .int8, .uint8, .int16, .uint16, .int32, .uint32, .bigInt64, .bigUint64, .float16, .float32,
    .float64 ]

def dataViewPrototypeGroup : LibraryGroup where
  library := .dataViewPrototype
  members :=
    [.getter "buffer", .getter "byteLength", .getter "byteOffset"] ++
      listedElements.map (fun element => .method ("get" ++ element.name) 1) ++
      listedElements.map (fun element => .method ("set" ++ element.name) 2) ++
      [.tag "DataView"]

end Fingerprint.Script.Standard
