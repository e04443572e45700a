import Fingerprint.Script.Library.Basic

/-!
The functions of objects: listing, defining and freezing properties.
-/

namespace Fingerprint.Script.Standard

variable (it : Interpreter)

/-! ### Definitions -/

/-- Whether a key shows in lists of all keys. -/
def isVisible (key : Key) : Bool := key.isText || key.isSymbol

/-- Defines a property for each listed property of a value, one after the other. -/
def defineAll (ref : Ref) (descriptions : Value) : M Unit := do
  let source ← toObject descriptions
  for key in ← listedKeys it source do
    if isVisible key then
      defineOrThrow it ref key (← toDescriptor it (← getProperty it source key))

/-! ### Listing -/

/-- The listed properties of a value, each as what is made of its key and value. -/
def listEntries (value : Value) (part : EntryPart) : M Value := do
  let ref ← toObject value
  let mut found := #[]
  for key in (← ownKeys it ref).filter Key.isText do
    if ← isListed it ref key then
      match part with
      | .key => found := found.push key.toValue
      | part => found := found.push (← entryPart part key.toValue (← getProperty it ref key))
  return .object (← newArray found)

def keyList (ref : Ref) (test : Key → Bool) : M Value := do
  return .object (← newArray (((← ownKeys it ref).filter test).map Key.toValue).toArray)

/-! ### Freezing -/

/-- Fixes all properties of an object, also their values if it is frozen. -/
def fixObject (ref : Ref) (isFrozen : Bool) : M Unit := do
  match (← getObject ref).kind with
  | .proxy .. | .view _ | .mappedArguments .. =>
    unless ← preventExtensions it ref do throwType "proxy preventExtensions handler returned false"
    for key in ← ownKeys it ref do
      let isWritable ← if isFrozen then do
          let property ← ownProperty it ref key
          pure (property.any fun property => match property.content with
            | .data _ writable => writable
            | .accessor .. => false)
        else pure false
      if isWritable then
        match (← getObject ref).kind with
        | .view _ => throwType "cannot freeze array buffer views with elements"
        | _ => pure ()
      let writable := if isWritable then some false else none
      defineOrThrow it ref key ⟨none, writable, none, none, none, some false⟩
  | _ =>
    if isFrozen then lockObject ref Property.freeze false else lockObject ref Property.seal true

def isFrozenProperty (property : Property) : Bool :=
  !property.configurable &&
    match property.content with
    | .data _ writable => !writable
    | .accessor .. => true

/-- Whether an object has only properties of a sort and takes no more. -/
def isLocked (value : Value) (test : Property → Bool) : M Value := do
  match value with
  | .object ref =>
    let keys ← ownKeys it ref
    if ← keys.allM fun key => return (← ownProperty it ref key).all test then
      return .bool (!(← isExtensible it ref))
    else return .bool false
  | _ => return .bool true

/-! ### Inheritance -/

/-- The object that a value says to inherit from. -/
def wantedPrototype (value : Value) : M (Option Ref) := do
  match value with
  | .object ref => return some ref
  | .null => return none
  | _ => throwType "not an object"

def setPrototype (ref : Ref) (prototype : Value) : M Unit := do
  let wanted ← wantedPrototype prototype
  unless ← changePrototype it ref wanted do
    match (← getObject ref).kind with
    | .proxy .. => throwType "proxy: bad prototype"
    | _ =>
      if ref = Intrinsic.objectPrototype.ref then
        throwType "'Immutable prototype object 'Object.prototype' cannot have their prototype set'"
      else if (← getObject ref).extensible then throwType "circular prototype chain"
      else throwType "object is not extensible"

/-! ### Functions -/

def assignAll (call : LibraryCall) : M Value := do
  let target ← toObject call.first
  for source in call.arguments.toList.drop 1 do
    unless source.isNullish do
      let ref ← toObject source
      eachListed it ref [] fun key value => do
        if isVisible key then setOf it true (.object target) key value
  return .object target

def createObject (call : LibraryCall) : M Value := do
  let prototype ← match call.first with
    | .object ref => pure (some ref)
    | .null => pure none
    | _ => throwType "not a prototype"
  let ref ← allocate (.ofKind prototype .ordinary)
  unless call.second.isUndefined do defineAll it ref call.second
  return .object ref

def fromEntries (entries : Value) : M Value := do
  let ref ← newObject
  eachItem it entries () (fun _ entry => do
    let .object pair := entry | throwType "not an object"
    let key ← toKey it (← getProperty it pair (.index 0))
    createProperty ref key (← getProperty it pair (.index 1))
    return .inl ()) (fun _ => return Value.object ref)

def groupBy (items function : Value) : M Value := do
  let function ← requireCallable function
  let groups ← allocate (.ofKind none .ordinary)
  eachItem it items 0 (fun count item => do
    let key ← toKey it (← it.call function .undefined #[item, .ofNat count])
    match ← ownProperty it groups key with
    | some ⟨.data (.object group) _, _, _⟩ =>
      let length ← lengthOf it group
      createProperty group (.index length) item
    | _ => createProperty groups key (.object (← newArray #[item]))
    return .inl (count + 1)) (fun _ => return Value.object groups)

def ownDescriptors (value : Value) : M Value := do
  let ref ← toObject value
  let found ← newObject
  for key in ← ownKeys it ref do
    if isVisible key then
      match ← ownProperty it ref key with
      | some property => createProperty found key (← ofProperty property)
      | none => pure ()
  return .object found

def objectListing (name : String) (call : LibraryCall) : M Value := do
  match name with
  | "keys" => listEntries it call.first .key
  | "values" => listEntries it call.first .value
  | "entries" => listEntries it call.first .both
  | "getOwnPropertyNames" => keyList it (← toObject call.first) Key.isText
  | "getOwnPropertySymbols" => keyList it (← toObject call.first) Key.isSymbol
  | "getOwnPropertyDescriptors" => ownDescriptors it call.first
  | "getOwnPropertyDescriptor" =>
    let ref ← toObject call.first
    match ← ownProperty it ref (← toKey it call.second) with
    | some property => ofProperty property
    | none => return .undefined
  | "hasOwn" =>
    let ref ← toObject call.first
    return .bool (← ownProperty it ref (← toKey it call.second)).isSome
  | "fromEntries" => fromEntries it call.first
  | _ => groupBy it call.first call.second

def objectLocking (name : String) (call : LibraryCall) : M Value := do
  match name with
  | "isFrozen" => isLocked it call.first isFrozenProperty
  | "isSealed" => isLocked it call.first fun property => !property.configurable
  | "isExtensible" =>
    match call.first with
    | .object ref => return .bool (← isExtensible it ref)
    | _ => return .bool false
  | name =>
    match call.first with
    | .object ref =>
      match name with
      | "freeze" => fixObject it ref true
      | "seal" => fixObject it ref false
      | _ =>
        unless ← preventExtensions it ref do
          throwType "proxy preventExtensions handler returned false"
    | _ => pure ()
    return call.first

def newObjectOf (call : LibraryCall) : M Value := do
  let own := call.newTarget.isUndefined || call.newTarget.same call.function
  if own && !call.first.isNullish then return .object (← toObject call.first)
  let prototype ← prototypeFor it call.newTarget .objectPrototype
  return .object (← allocate (.ofKind (some prototype) .ordinary))

def object : LibraryCode := fun name call => do
  match name with
  | "keys" | "values" | "entries" | "getOwnPropertyNames" | "getOwnPropertySymbols"
  | "getOwnPropertyDescriptors" | "getOwnPropertyDescriptor" | "hasOwn" | "fromEntries" |
    "groupBy" =>
    objectListing it name call
  | "freeze" | "isFrozen" | "seal" | "isSealed" | "preventExtensions" | "isExtensible" =>
    objectLocking it name call
  | "assign" => assignAll it call
  | "create" => createObject it call
  | "is" => return .bool (call.first.identical call.second)
  | "getPrototypeOf" => return prototypeValue (← prototypeOf it (← toObject call.first))
  | "setPrototypeOf" =>
    if call.first.isNullish then throwType "not an object"
    match call.first, call.second with
    | .object ref, prototype => setPrototype it ref prototype
    | _, prototype => let _ ← wantedPrototype prototype
    return call.first
  | "defineProperty" =>
    let .object ref := call.first | throwType "not an object"
    let key ← toKey it call.second
    defineOrThrow it ref key (← toDescriptor it (call.argument 2))
    return call.first
  | "defineProperties" =>
    let .object ref := call.first | throwType "not an object"
    defineAll it ref call.second
    return call.first
  | _ => newObjectOf it call

def objectGroup : LibraryGroup := .ofList .object
  [("create", 2), ("getPrototypeOf", 1), ("setPrototypeOf", 2), ("defineProperty", 3),
    ("defineProperties", 2), ("getOwnPropertyNames", 1), ("getOwnPropertySymbols", 1),
    ("groupBy", 2), ("keys", 1), ("values", 1), ("entries", 1), ("isExtensible", 1),
    ("preventExtensions", 1), ("getOwnPropertyDescriptor", 2), ("getOwnPropertyDescriptors", 1),
    ("is", 2), ("assign", 2), ("seal", 1), ("freeze", 1), ("isSealed", 1), ("isFrozen", 1),
    ("fromEntries", 1), ("hasOwn", 2)]

/-! ### The methods of all objects -/

/-- The word that the text of an object shows, unless the object has one of its own. -/
def standardTag (ref : Ref) : M String := do
  if ← isArray (.object ref) then return "Array"
  let object ← getObject ref
  match object.kind with
  | .error => return "Error"
  | .arguments | .mappedArguments .. => return "Arguments"
  | .wrapped (.bool _) => return "Boolean"
  | .wrapped (.number _) => return "Number"
  | .wrapped (.text _) => return "String"
  | .date _ => return "Date"
  | .regex _ => return "RegExp"
  | _ => return if object.isCallable then "Function" else "Object"

def describeObject (this : Value) : M Value := do
  match this with
  | .undefined => return .ofText "[object Undefined]"
  | .null => return .ofText "[object Null]"
  | this =>
    let ref ← toObject this
    let tag ← match ← getProperty it ref WellKnownSymbol.toStringTag.key with
      | .text units => pure units
      | _ => do pure (Units.ofString (← standardTag ref))
    return .text ("[object " ++ tag ++ "]")

def defineLegacy (call : LibraryCall) (isGetter : Bool) : M Value := do
  let ref ← toObject call.this
  let function ← requireCallable call.second
  let key ← toKey it call.first
  defineOrThrow it ref key
    ⟨none, none, if isGetter then some function else none, if isGetter then none else some function,
      some true, some true⟩
  return .undefined

def lookupLegacy (call : LibraryCall) (isGetter : Bool) : M Value := do
  let ref ← toObject call.this
  let key ← toKey it call.first
  let rec search : Nat → Ref → M Value
    | 0, _ => return .undefined
    | depth + 1, ref => do
      match ← ownProperty it ref key with
      | some ⟨.accessor getter setter, _, _⟩ => return if isGetter then getter else setter
      | some _ => return .undefined
      | none =>
        match ← prototypeOf it ref with
        | some prototype => search depth prototype
        | none => return .undefined
  search inheritanceLimit ref

def objectPrototype : LibraryCode := fun name call => do
  match name with
  | "toString" => describeObject it call.this
  | "toLocaleString" => invoke it call.this "toString" #[]
  | "valueOf" => return .object (← toObject call.this)
  | "hasOwnProperty" =>
    let key ← toKey it call.first
    return .bool (← ownProperty it (← toObject call.this) key).isSome
  | "isPrototypeOf" =>
    match call.first, call.this with
    | .object value, .object ancestor =>
      return .bool (← inherits it inheritanceLimit value ancestor)
    | _, _ => return .bool false
  | "propertyIsEnumerable" =>
    let key ← toKey it call.first
    return .bool ((← ownProperty it (← toObject call.this) key).any (·.enumerable))
  | "get __proto__" => return prototypeValue (← prototypeOf it (← toObject call.this))
  | "set __proto__" =>
    match call.this, call.first with
    | .object ref, .object _ | .object ref, .null => setPrototype it ref call.first
    | _, _ => pure ()
    return .undefined
  | "__defineGetter__" => defineLegacy it call true
  | "__defineSetter__" => defineLegacy it call false
  | "__lookupGetter__" => lookupLegacy it call true
  | _ => lookupLegacy it call false

def objectPrototypeGroup : LibraryGroup where
  library := .objectPrototype
  members :=
    [ .method "toString" 0, .method "toLocaleString" 0, .method "valueOf" 0,
      .method "hasOwnProperty" 1, .method "isPrototypeOf" 1, .method "propertyIsEnumerable" 1,
      .accessor "__proto__", .method "__defineGetter__" 2, .method "__defineSetter__" 2,
      .method "__lookupGetter__" 1, .method "__lookupSetter__" 1 ]

/-! ### Reflection -/

/-- A list of arguments that an object is. -/
def argumentList (value : Value) : M (Array Value) := do
  match value with
  | .object ref =>
    checkArguments (← lengthOf it ref)
    listItems it ref
  | _ => throwType "not an object"

def reflectConstruct (call : LibraryCall) : M Value := do
  let newTarget := if 2 < call.arguments.size then call.argument 2 else call.first
  let arguments ← argumentList it call.second
  it.construct call.first arguments newTarget

def reflect : LibraryCode := fun name call => do
  match name with
  | "apply" =>
    let function ← requireCallable call.first
    it.call function call.second (← argumentList it (call.argument 2))
  | "construct" => reflectConstruct it call
  | name =>
    let ref ← requireObject call.first
    match name with
    | "get" =>
      let receiver := if 2 < call.arguments.size then call.argument 2 else call.first
      getFrom it ref (← toKey it call.second) receiver
    | "set" =>
      let receiver := if 3 < call.arguments.size then call.argument 3 else call.first
      let written ← setProperty it ref (← toKey it call.second) (call.argument 2) receiver
      return .bool (written == .done)
    | "has" => return .bool (← hasProperty it ref (← toKey it call.second))
    | "ownKeys" => keyList it ref isVisible
    | "getPrototypeOf" => return prototypeValue (← prototypeOf it ref)
    | "setPrototypeOf" => return .bool (← changePrototype it ref (← wantedPrototype call.second))
    | "defineProperty" =>
      let key ← toKey it call.second
      return .bool (← defineProperty it ref key (← toDescriptor it (call.argument 2)))
    | "deleteProperty" => return .bool (← deleteProperty it ref (← toKey it call.second))
    | "getOwnPropertyDescriptor" =>
      match ← ownProperty it ref (← toKey it call.second) with
      | some property => ofProperty property
      | none => return .undefined
    | "isExtensible" => return .bool (← isExtensible it ref)
    | _ => return .bool (← preventExtensions it ref)

def reflectGroup : LibraryGroup :=
  (LibraryGroup.ofList .reflect
    [("apply", 3), ("construct", 2), ("defineProperty", 3), ("deleteProperty", 2), ("get", 2),
      ("getOwnPropertyDescriptor", 2), ("getPrototypeOf", 1), ("has", 2), ("isExtensible", 1),
      ("ownKeys", 1), ("preventExtensions", 1), ("set", 3), ("setPrototypeOf", 2)]).append
    [.tag "Reflect"]

end Fingerprint.Script.Standard
