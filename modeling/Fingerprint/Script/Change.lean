import Fingerprint.Script.Convert

/-!
Assigning to the properties of objects, defining them and removing them.
-/

namespace Fingerprint.Script

/-! ### Ordinary properties -/

/-- The number of bytes that an object takes once it has a value under a key, as far as values like
this one tell. -/
def bytesWith (object : Object) (key : Key) (value : Value) : Nat :=
  match object.kind, key with
  | .array items .., .index place => if place = items.size then place * valueBytes value else 0
  | _, _ => object.properties.entries.size * propertyBytes

/-- Puts a value to an object itself. -/
def writeOwn (ref : Ref) (key : Key) (value : Value) : M Unit := do
  reserve (bytesWith (← getObject ref) key value)
  modifyObject ref (·.write key value)

/-- Gives an object without a handler a plain property of its own. -/
def createProperty (ref : Ref) (key : Key) (value : Value) : M Unit := do
  modifyObject ref (·.define key (.plain value))

/-- Gives the parameter that an item of an arguments object is linked to a value. -/
def writeLinked (scope : Nat) (place : Option Nat) (value : Value) : M Unit := do
  match place with
  | some place =>
    modify fun machine =>
      { machine with
        scopes := machine.scopes.modify scope fun scope =>
          { scope with
            bindings :=
              scope.bindings.modify place fun binding => { binding with value := some value } } }
  | none => return

/-- Separates an item of an arguments object from its parameter. -/
def unlink (ref : Ref) (place : Nat) : M Unit :=
  modifyObject ref fun object =>
    match object.kind with
    | .mappedArguments scope places =>
      { object with kind := .mappedArguments scope (places.setIfInBounds place none) }
    | _ => object

variable (it : Interpreter)

/-! ### Elements of views -/

/-- A large integer. -/
def toBigInt (value : Value) : M Int := do
  match ← toPrimitive it .number value with
  | .bigInt value => return value
  | .bool value => return if value then 1 else 0
  | .text units =>
    match Number.integerOfUnits? units with
    | some value => return value
    | none => throwNew .grammar "invalid BigInt literal"
  | _ => throwType "cannot convert to BigInt"

/-- The number or large integer that an element is made of. -/
def toElement (element : Element) (value : Value) : M Value := do
  if element.isBig then return .bigInt (← toBigInt it value)
  else return .number (← toNumber it value)

def modifyBytes (buffer : Ref) (change : ByteArray → ByteArray) : M Unit :=
  modifyObject buffer fun object =>
    match object with
    | ⟨prototype, .buffer ⟨bytes, largest, isDetached, isShared⟩, properties, extensible⟩ =>
      ⟨prototype, .buffer ⟨change bytes, largest, isDetached, isShared⟩, properties, extensible⟩
    | other => other

/-- Puts a converted value to a place of a view; a place outside it is passed over. -/
def putElement (view : View) (place : Nat) (value : Value) : M Unit := do
  if place < (← viewCount view) then
    modifyBytes view.buffer fun bytes =>
      view.element.write bytes (view.offset + place * view.element.size) true value

/-- Assigns to a place of a view. -/
def writeElement (view : View) (place : Nat) (value : Value) : M Unit := do
  putElement view place (← toElement it view.element value)

/-! ### Definitions -/

/-- Whether a definition fits the elements of views. -/
def Descriptor.fitsElement (descriptor : Descriptor) : Bool :=
  !descriptor.isAccessor && descriptor.writable != some false &&
    descriptor.enumerable != some false &&
    descriptor.configurable != some false

def defineElement (view : View) (key : ElementKey) (descriptor : Descriptor) : M Bool := do
  match key with
  | .place place =>
    if place < (← viewCount view) && descriptor.fitsElement then
      match descriptor.value with
      | some value => writeElement it view place value
      | none => pure ()
      return true
    else return false
  | _ => return false

/-- Gives an object without a handler a property of its own, and tells whether it could. -/
def defineOrdinary (ref : Ref) (key : Key) (descriptor : Descriptor) : M Bool := do
  let object ← getObject ref
  match object.own? key with
  | some property =>
    if descriptor.allowedBy property then
      modifyObject ref (·.define key (descriptor.applyTo property))
      return true
    else return false
  | none =>
    if takesNew object key then
      modifyObject ref (·.define key descriptor.fresh)
      return true
    else return false

/-- Defines an item of an arguments object that is linked to a parameter. -/
def defineLinked (ref : Ref) (scope : Nat) (place : Option Nat) (index : Nat)
    (descriptor : Descriptor) : M Bool := do
  let current ← match place with
    | some place => linkedValue scope place
    | none => pure none
  -- the property takes over the value that the parameter had
  match (← getObject ref).own? (.index index), current with
  | some ⟨.data _ writable, enumerable, configurable⟩, some value =>
    putProperty ref (.index index) ⟨.data value writable, enumerable, configurable⟩
  | _, _ => pure ()
  if ← defineOrdinary ref (.index index) descriptor then
    if descriptor.isAccessor then unlink ref index
    else
      match descriptor.value with
      | some value => writeLinked scope place value
      | none => pure ()
      if descriptor.writable == some false then unlink ref index
    return true
  else return false

/-- Gives an object a property of its own, and tells whether it could. -/
def defineProperty (ref : Ref) (key : Key) (descriptor : Descriptor) : M Bool := do
  let object ← getObject ref
  match object.kind, key with
  | .proxy .., _ => it.handled.define ref key descriptor
  | .view view, key =>
    match elementKey key with
    | .other => defineOrdinary ref key descriptor
    | found => defineElement it view found descriptor
  | .array .., .name name =>
    if name == Units.ofString "length" && descriptor.value.any (lengthOf? · |>.isNone) then
      throwRange "invalid array length"
    else defineOrdinary ref key descriptor
  | .mappedArguments scope places, .index index =>
    defineLinked ref scope places[index]?.join index descriptor
  | _, _ => defineOrdinary ref key descriptor

/-- Defines a property or fails. -/
def defineOrThrow (ref : Ref) (key : Key) (descriptor : Descriptor) : M Unit := do
  unless ← defineProperty it ref key descriptor do
    let object ← getObject ref
    match object.kind, elementKey key with
    | .proxy .., _ => throwType "proxy: defineProperty exception"
    | .view view, .place place =>
      if place < (← viewCount view) then throwType "invalid descriptor flags"
      else throwType "out-of-bound index in typed array"
    | .view _, .nowhere => throwType "non integer index in typed array"
    | _, _ =>
      if (object.own? key).isSome then throwType "property is not configurable"
      else throwType "object is not extensible"

/-- Gives an object a plain property of its own or fails. -/
def createOrThrow (ref : Ref) (key : Key) (value : Value) : M Unit :=
  defineOrThrow it ref key (.ofProperty (.plain value))

/-! ### Assignments -/

/-- Puts a value to an array's length. -/
def writeLength (ref : Ref) (value : Value) : M Unit := do
  let number ← toNumber it value
  match lengthOf? (.number number) with
  | some length => modifyObject ref (setLength · length)
  | none => throwRange "invalid array length"

/-- Puts a value to the object itself that an assignment was made to. -/
def writeReceiver (receiver : Value) (key : Key) (value : Value) : M Written := do
  match receiver with
  | .object ref =>
    let object ← getObject ref
    match object.kind with
    | .proxy .. =>
      match ← it.handled.own ref key with
      | some ⟨.data _ true, _, _⟩ =>
        let descriptor : Descriptor := ⟨some value, none, none, none, none, none⟩
        return if ← it.handled.define ref key descriptor then .done else .refused
      | some ⟨.data _ false, _, _⟩ => return .readOnly
      | some ⟨.accessor .., _, _⟩ => return .noSetter
      | none =>
        let descriptor := Descriptor.ofProperty (.plain value)
        return if ← it.handled.define ref key descriptor then .done else .refused
    | .view view =>
      match elementKey key with
      | .place place =>
        writeElement it view place value
        return .done
      | .nowhere =>
        let _ ← toElement it view.element value
        return .done
      | .other => writePlain ref object key
    | .mappedArguments scope places =>
      match key with
      | .index index =>
        let written ← writePlain ref object key
        if written == .done then writeLinked scope places[index]?.join value
        return written
      | key => writePlain ref object key
    | _ => writePlain ref object key
  | _ => return .notObject
where
  writePlain (ref : Ref) (object : Object) (key : Key) : M Written := do
    match object.own? key with
    | some ⟨.data _ true, _, _⟩ =>
      match object.kind, key with
      | .array .., .name name =>
        if name == Units.ofString "length" then writeLength it ref value
        else writeOwn ref key value
      | _, _ => writeOwn ref key value
      return .done
    | some ⟨.data _ false, _, _⟩ => return .readOnly
    | some ⟨.accessor .., _, _⟩ => return .noSetter
    | none =>
      if takesNew object key then
        writeOwn ref key value
        return .done
      else return .notExtensible

/-- Assigns to what was found under a key. -/
def writeFound (found : Found) (key : Key) (value receiver : Value) : M Written := do
  match found with
  | .absent => writeReceiver it receiver key value
  | .handled handled => it.handled.set handled key value receiver
  | .property property =>
    match property.content with
    | .data _ true => writeReceiver it receiver key value
    | .data _ false => return .readOnly
    | .accessor _ setter =>
      match setter with
      | .undefined => return .noSetter
      | setter =>
        let _ ← it.call setter receiver #[value]
        return .done

/-- Whether an assignment to a view is one to its elements. -/
def isElementWrite (ref : Ref) (key : Key) (receiver : Value) : Bool :=
  match receiver, elementKey key with
  | _, .other => false
  | .object target, _ => target = ref
  | _, _ => false

/-- Assigns to a property that an object has, inherits or gets. -/
def setProperty (ref : Ref) (key : Key) (value receiver : Value) : M Written := do
  match (← getObject ref).kind with
  | .view _ =>
    if isElementWrite ref key receiver then writeReceiver it receiver key value
    else writeFound it (← lookup ref key) key value receiver
  | _ => writeFound it (← lookup ref key) key value receiver

/-- Reports that a property was not written. -/
def reportWritten (key : Key) (written : Written) : M Unit := do
  match written with
  | .done => return
  | .readOnly => throwKeyed .type "'" key "' is read-only"
  | .noSetter => throwType "no setter for property"
  | .notExtensible => throwType "object is not extensible"
  | .notObject => throwType "not an object"
  | .refused => throwType "proxy: cannot set property"

/-- Assigns to a property of any value. -/
def setOf (strict : Bool) (base : Value) (key : Key) (value : Value) : M Unit := do
  let written ← match base with
    | .object ref => setProperty it ref key value base
    | .undefined => throwKeyed .type "cannot set property '" key "' of undefined"
    | .null => throwKeyed .type "cannot set property '" key "' of null"
    | other =>
      match prototypeOf? other with
      | some prototype => setProperty it prototype.ref key value base
      | none => pure .notObject
  if strict then reportWritten key written

/-! ### Removal -/

/-- Removes a property of an object itself, and tells whether it could. -/
def deleteProperty (ref : Ref) (key : Key) : M Bool := do
  let object ← getObject ref
  match object.kind with
  | .proxy .. => it.handled.delete ref key
  | .view view =>
    match elementKey key with
    | .place place => return place ≥ (← viewCount view)
    | .nowhere => return true
    | .other => deletePlain object
  | .mappedArguments .. =>
    let gone ← deletePlain object
    match gone, key with
    | true, .index place => unlink ref place
    | _, _ => pure ()
    return gone
  | _ => deletePlain object
where
  deletePlain (object : Object) : M Bool := do
    match object.own? key with
    | none => return true
    | some property =>
      if property.configurable then
        modifyObject ref (·.remove key)
        return true
      else return false

/-! ### Inheritance -/

/-- Makes an object inherit from another one, and tells whether it could. -/
def changePrototype (ref : Ref) (wanted : Option Ref) : M Bool := do
  let object ← getObject ref
  match object.kind with
  | .proxy .. => it.handled.setPrototype ref wanted
  | _ =>
    if object.prototype = wanted then return true
    if !object.extensible || ref = Intrinsic.objectPrototype.ref then return false
    if ← leadsTo inheritanceLimit wanted then return false
    modifyObject ref fun object => { object with prototype := wanted }
    return true
where
  /-- Whether an object without handlers up to it inherits from `ref`. -/
  leadsTo : Nat → Option Ref → M Bool
    | 0, _ => return true
    | _ + 1, none => return false
    | depth + 1, some other => do
      if other = ref then return true
      let object ← getObject other
      match object.kind with
      | .proxy .. => return false
      | _ => leadsTo depth object.prototype

def preventExtensions (ref : Ref) : M Bool := do
  match (← getObject ref).kind with
  | .proxy .. => it.handled.preventExtensions ref
  | _ =>
    modifyObject ref fun object => { object with extensible := false }
    return true

end Fingerprint.Script
