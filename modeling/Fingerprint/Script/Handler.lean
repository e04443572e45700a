import Fingerprint.Script.Descriptor

/-!
Objects that leave what is done with them to a handler: it has a function for each operation, and
what it has no function for is done with the object behind.

What a handler says must fit what is fixed about the object behind.
-/

namespace Fingerprint.Script

variable (it : Interpreter)

/-- The object behind, the handler, and its function for an operation. -/
structure Trap where
  target : Ref
  handler : Ref
  method : Option Value

/-- What a handler has for an operation. -/
def trapOf (ref : Ref) (name : String) : M Trap := do
  match (← getObject ref).kind with
  | .proxy (some (target, handler)) .. =>
    match ← getProperty it handler (.ofUnits name) with
    | .undefined | .null => return ⟨target, handler, none⟩
    | method => return ⟨target, handler, some method⟩
  | .proxy none .. => throwRevoked
  | _ => throwType "not an object"

def Trap.run (trap : Trap) (method : Value) (arguments : List Value) : M Value :=
  it.call method (.object trap.handler) (Value.object trap.target :: arguments).toArray

/-- The values of keys as handlers see them. -/
def prototypeValue (prototype : Option Ref) : Value :=
  match prototype with
  | some ref => .object ref
  | none => .null

def handledPrototype (ref : Ref) : M (Option Ref) := do
  let trap ← trapOf it ref "getPrototypeOf"
  let some method := trap.method | prototypeOf it trap.target
  let found ← match ← trap.run it method [] with
    | .object ref => pure (some ref)
    | .null => pure none
    | _ => throwType "proxy: inconsistent prototype"
  unless ← isExtensible it trap.target do
    if (← prototypeOf it trap.target) ≠ found then throwType "proxy: inconsistent prototype"
  return found

def handledSetPrototype (ref : Ref) (wanted : Option Ref) : M Bool := do
  let trap ← trapOf it ref "setPrototypeOf"
  let some method := trap.method | changePrototype it trap.target wanted
  if (← trap.run it method [prototypeValue wanted]).isTruthy then
    unless ← isExtensible it trap.target do
      if (← prototypeOf it trap.target) ≠ wanted then throwType "proxy: inconsistent prototype"
    return true
  else return false

def handledIsExtensible (ref : Ref) : M Bool := do
  let trap ← trapOf it ref "isExtensible"
  let some method := trap.method | isExtensible it trap.target
  let found := (← trap.run it method []).isTruthy
  if found != (← isExtensible it trap.target) then throwType "proxy: inconsistent isExtensible"
  return found

def handledPreventExtensions (ref : Ref) : M Bool := do
  let trap ← trapOf it ref "preventExtensions"
  let some method := trap.method | preventExtensions it trap.target
  let found := (← trap.run it method []).isTruthy
  if found && (← isExtensible it trap.target) then throwType "proxy: inconsistent preventExtensions"
  return found

/-- Whether a description that is complete fits a property that may be there already. -/
def fitsTarget (descriptor : Descriptor) (current : Option Property) (extensible : Bool) : Bool :=
  match current with
  | none => extensible && descriptor.configurable != some false
  | some property =>
    descriptor.allowedBy property &&
      (descriptor.configurable != some false || !property.configurable)

def handledOwn (ref : Ref) (key : Key) : M (Option Property) := do
  let trap ← trapOf it ref "getOwnPropertyDescriptor"
  let some method := trap.method | ownProperty it trap.target key
  let said ← trap.run it method [key.toValue]
  let current ← ownProperty it trap.target key
  let extensible ← isExtensible it trap.target
  match said with
  | .undefined =>
    match current with
    | some property =>
      unless property.configurable && extensible do
        throwType "proxy: inconsistent getOwnPropertyDescriptor"
    | none => pure ()
    return none
  | .object _ =>
    let property := (← toDescriptor it said).fresh
    unless fitsTarget (.ofProperty property) current extensible do
      throwType "proxy: inconsistent getOwnPropertyDescriptor"
    return some property
  | _ => throwType "proxy: inconsistent getOwnPropertyDescriptor"

def handledDefine (ref : Ref) (key : Key) (descriptor : Descriptor) : M Bool := do
  let trap ← trapOf it ref "defineProperty"
  let some method := trap.method | defineProperty it trap.target key descriptor
  if (← trap.run it method [key.toValue, ← ofDescriptor descriptor]).isTruthy then
    let current ← ownProperty it trap.target key
    unless fitsTarget descriptor current (← isExtensible it trap.target) do
      throwType "proxy: inconsistent defineProperty"
    return true
  else return false

def handledHas (ref : Ref) (key : Key) : M Bool := do
  let trap ← trapOf it ref "has"
  let some method := trap.method | hasProperty it trap.target key
  if (← trap.run it method [key.toValue]).isTruthy then return true
  match ← ownProperty it trap.target key with
  | some property =>
    unless property.configurable && (← isExtensible it trap.target) do
      throwType "proxy: inconsistent has"
  | none => pure ()
  return false

/-- Whether a fixed property has another value than the one that a handler reads or writes. -/
def contradicts (property : Property) (value : Value) (isWrite : Bool) : Bool :=
  !property.configurable &&
    match property.content with
    | .data current false => !current.identical value
    | .data _ true => false
    | .accessor getter setter =>
      if isWrite then setter.isUndefined else getter.isUndefined && !value.isUndefined

def handledGet (ref : Ref) (key : Key) (this : Value) : M Value := do
  let trap ← trapOf it ref "get"
  let some method := trap.method | getFrom it trap.target key this
  let value ← trap.run it method [key.toValue, this]
  match ← ownProperty it trap.target key with
  | some property => if contradicts property value false then throwType "proxy: inconsistent get"
  | none => pure ()
  return value

def handledSet (ref : Ref) (key : Key) (value receiver : Value) : M Written := do
  let trap ← trapOf it ref "set"
  let some method := trap.method | setProperty it trap.target key value receiver
  if (← trap.run it method [key.toValue, value, receiver]).isTruthy then
    match ← ownProperty it trap.target key with
    | some property => if contradicts property value true then throwType "proxy: inconsistent set"
    | none => pure ()
    return .done
  else return .refused

def handledDelete (ref : Ref) (key : Key) : M Bool := do
  let trap ← trapOf it ref "deleteProperty"
  let some method := trap.method | deleteProperty it trap.target key
  if (← trap.run it method [key.toValue]).isTruthy then
    match ← ownProperty it trap.target key with
    | some property =>
      unless property.configurable && (← isExtensible it trap.target) do
        throwType "proxy: inconsistent deleteProperty"
    | none => pure ()
    return true
  else return false

/-- The keys in a list that a handler has made. -/
def keysOfList (list : Ref) : M (List Key) := do
  let items ← listItems it list
  let keys ← items.toList.mapM fun item => do
    match item with
    | .text units => return Key.ofUnits units
    | .symbol id => return Key.symbol id
    | _ => throwType "proxy: properties must be strings or symbols"
  if keys.eraseDups.length < keys.length then throwType "proxy: duplicate property"
  return keys

def handledKeys (ref : Ref) : M (List Key) := do
  let trap ← trapOf it ref "ownKeys"
  let some method := trap.method | ownKeys it trap.target
  let .object list ← trap.run it method [] | throwType "not an object"
  let keys ← keysOfList it list
  let extensible ← isExtensible it trap.target
  let targetKeys ← ownKeys it trap.target
  for key in targetKeys do
    match ← ownProperty it trap.target key with
    | some property =>
      if (!property.configurable || !extensible) && !keys.contains key then
        throwType "proxy: target property must be present in proxy ownKeys"
    | none => pure ()
  if !extensible && keys.any (!targetKeys.contains ·) then
    throwType "proxy: property not present in target were returned by non extensible proxy"
  return keys

/-- Calls a function that leaves calls to a handler. -/
def handledCall (ref : Ref) (this : Value) (arguments : Array Value) : M Value := do
  let trap ← trapOf it ref "apply"
  unless (← getObject ref).isCallable do throwType "not a function"
  let some method := trap.method | it.call (.object trap.target) this arguments
  trap.run it method [this, .object (← newArray arguments)]

/-- Makes an object with a constructor that leaves this to a handler. -/
def handledConstruct (ref : Ref) (arguments : Array Value) (newTarget : Value) : M Value := do
  let trap ← trapOf it ref "construct"
  let some method := trap.method | it.construct (.object trap.target) arguments newTarget
  match ← trap.run it method [.object (← newArray arguments), newTarget] with
  | .object made => return .object made
  | _ => throwType "not an object"

/-- What is done with objects that have handlers, by evaluators that are one step deeper. -/
def handling : Handling where
  prototype := handledPrototype it
  setPrototype := handledSetPrototype it
  isExtensible := handledIsExtensible it
  preventExtensions := handledPreventExtensions it
  own := handledOwn it
  define := handledDefine it
  has := handledHas it
  get := handledGet it
  set := handledSet it
  delete := handledDelete it
  keys := handledKeys it

end Fingerprint.Script
