import Fingerprint.Script.Machine

/-!
Reading and listing the properties of objects, those that they have and those that they inherit.

An object with a handler answers for itself and for what it inherits from; every walk along the
objects that inherit from each other ends at the first one.
-/

namespace Fingerprint.Script

/-! ### Elements of views -/

def bufferOf (ref : Ref) : M Buffer := do
  match (← getObject ref).kind with
  | .buffer buffer => return buffer
  | _ => return default

/-- The number of elements that a view shows. -/
def viewCount (view : View) : M Nat := return view.count (← bufferOf view.buffer).bytes.size

/-- The element at a place of a view. -/
def readElement (view : View) (place : Nat) : M (Option Value) := do
  let bytes := (← bufferOf view.buffer).bytes
  if place < view.count bytes.size then
    return some (view.element.read bytes (view.offset + place * view.element.size) true)
  else return none

/-- Whether a name is the text of a number, so that it stands for an element of a view. -/
def isNumberText (units : Units) : Bool :=
  units == Units.ofString "-0" || Units.ofString (Number.text (Number.ofUnits units)) == units

/-- What a key stands for in a view. -/
inductive ElementKey where
  | place (place : Nat)
  /-- A number that is no place. -/
  | nowhere
  | other

def elementKey : Key → ElementKey
  | .index place => .place place
  | .name units =>
    match units.get? 0 with
    | some unit =>
      if (0x30 ≤ unit && unit ≤ 0x39) || unit == 0x2D || unit == 0x49 || unit == 0x4E then
        if isNumberText units then .nowhere else .other
      else .other
    | none => .other
  | _ => .other

/-! ### Own properties -/

/-- The value of a parameter that an item of an arguments object shows. -/
def linkedValue (scope : Nat) (place : Nat) : M (Option Value) := do
  return ((← get).scopes[scope]?.bind (·.bindings[place]?)).bind (·.value)

/-- The property of an object without a handler itself, whatever it inherits. -/
def Object.findOwn (object : Object) (key : Key) : M (Option Property) := do
  match object.kind with
  | .view view =>
    match elementKey key with
    | .place place =>
      return (← readElement view place).map fun value => ⟨.data value true, true, true⟩
    | .nowhere => return none
    | .other => return object.properties.get? key
  | .mappedArguments scope places =>
    match object.properties.get? key, key with
    | some property, .index index =>
      match places[index]?.join, property.content with
      | some place, .data value writable =>
        let value := (← linkedValue scope place).getD value
        return some { property with content := .data value writable }
      | _, _ => return some property
    | found, _ => return found
  | _ => return object.own? key

/-- Where a property was found. -/
inductive Found where
  | absent
  | property (property : Property)
  /-- An object with a handler, which knows. -/
  | handled (ref : Ref)
deriving Inhabited

/-- The property that an object has or inherits; `depth` bounds the objects that it inherits
from. -/
def findProperty : Nat → Ref → Key → M Found
  | 0, _, _ => return .absent
  | depth + 1, ref, key => do
    let object ← getObject ref
    match object.kind with
    | .proxy .. => return .handled ref
    | .view _ =>
      match ← object.findOwn key, elementKey key with
      | some property, _ => return .property property
      | none, .other =>
        match object.prototype with
        | some prototype => findProperty depth prototype key
        | none => return .absent
      | none, _ => return .absent
    | .mappedArguments .. =>
      match ← object.findOwn key with
      | some property => return .property property
      | none =>
        match object.prototype with
        | some prototype => findProperty depth prototype key
        | none => return .absent
    | _ =>
      match object.own? key with
      | some property => return .property property
      | none =>
        match object.prototype with
        | some prototype => findProperty depth prototype key
        | none => return .absent

/-- The bound on objects that inherit from each other. -/
def inheritanceLimit : Nat := 10000

def lookup (ref : Ref) (key : Key) : M Found := findProperty inheritanceLimit ref key

/-- The text of a key in messages. -/
def describeKey (key : Key) : M Units := do
  match key with
  | .index place => return toString place
  | .name name => return name
  | .symbol id => return ((← get).symbols[id]?.join).getD .empty
  | .hidden id => return Units.ofString ("#" ++ ((← get).hiddenNames[id]?.getD default).name)

/-- Throws an error with a message about a property. -/
def throwKeyed {α : Type} (kind : ErrorKind) (before : String) (key : Key) (behind : String) :
    M α := do
  throwNamed kind before (← describeKey key) behind

variable (it : Interpreter)

/-- The property of an object itself, whatever it inherits. -/
def ownProperty (ref : Ref) (key : Key) : M (Option Property) := do
  let object ← getObject ref
  match object.kind, key with
  | .proxy .., .hidden _ => return object.properties.get? key
  | .proxy .., key => it.handled.own ref key
  | _, key => object.findOwn key

def hasProperty (ref : Ref) (key : Key) : M Bool := do
  match ← lookup ref key with
  | .absent => return false
  | .property _ => return true
  | .handled ref => it.handled.has ref key

/-- The value of a property with `this` for a getter. -/
def readProperty (this : Value) (property : Property) : M Value := do
  match property.content with
  | .data value _ => return value
  | .accessor getter _ =>
    match getter with
    | .undefined => return .undefined
    | getter => it.call getter this #[]

/-- The value of what was found under a key, with `this` for a getter. -/
def readFound (this : Value) (key : Key) (found : Found) : M Value := do
  match found with
  | .absent => return .undefined
  | .property property => readProperty it this property
  | .handled ref => it.handled.get ref key this

/-- The value of a property of an object, with a value for `this` in a getter. -/
def getFrom (ref : Ref) (key : Key) (this : Value) : M Value := do
  readFound it this key (← lookup ref key)

/-- The value of a property of an object. -/
def getProperty (ref : Ref) (key : Key) : M Value := getFrom it ref key (.object ref)

/-- The object that a value other than an object takes its properties from. -/
def prototypeOf? : Value → Option Intrinsic
  | .text _ => some .textPrototype
  | .number _ => some .numberPrototype
  | .bool _ => some .booleanPrototype
  | .symbol _ => some .symbolPrototype
  | .bigInt _ => some .bigIntPrototype
  | _ => none

/-- The value of a property of any value. -/
def getOf (base : Value) (key : Key) : M Value := do
  match base with
  | .object ref => getProperty it ref key
  | .undefined => throwKeyed .type "cannot read property '" key "' of undefined"
  | .null => throwKeyed .type "cannot read property '" key "' of null"
  | .text units =>
    match key with
    | .index place =>
      match units.get? place with
      | some unit => return .text ⟨#[unit]⟩
      | none => getFrom it Intrinsic.textPrototype.ref key base
    | .name name =>
      if name == Units.ofString "length" then return .ofNat units.length
      else getFrom it Intrinsic.textPrototype.ref key base
    | _ => getFrom it Intrinsic.textPrototype.ref key base
  | other =>
    match prototypeOf? other with
    | some prototype => getFrom it prototype.ref key base
    | none => return .undefined

/-! ### Inheritance -/

/-- The object that an object inherits from. -/
def prototypeOf (ref : Ref) : M (Option Ref) := do
  let object ← getObject ref
  match object.kind with
  | .proxy .. => it.handled.prototype ref
  | _ => return object.prototype

def isExtensible (ref : Ref) : M Bool := do
  let object ← getObject ref
  match object.kind with
  | .proxy .. => it.handled.isExtensible ref
  | _ => return object.extensible

/-- Whether an object inherits from another one; `depth` bounds the objects in between. -/
def inherits : Nat → Ref → Ref → M Bool
  | 0, _, _ => return false
  | depth + 1, ref, ancestor => do
    match ← prototypeOf it ref with
    | some prototype =>
      if prototype = ancestor then return true else inherits depth prototype ancestor
    | none => return false

/-! ### Listing -/

/-- The keys of the properties of an object itself. -/
def ownKeys (ref : Ref) : M (List Key) := do
  let object ← getObject ref
  match object.kind with
  | .proxy .. => it.handled.keys ref
  | .view view => return (List.range (← viewCount view)).map Key.index ++ object.keys
  | _ => return object.keys

/-- Whether an object itself has a listed property under a key. -/
def isListed (ref : Ref) (key : Key) : M Bool :=
  return (← ownProperty it ref key).any (·.enumerable)

def isProxy (ref : Ref) : M Bool := do
  match (← getObject ref).kind with
  | .proxy .. => return true
  | _ => return false

/-- The keys of the listed properties of an object itself. -/
def listedKeys (ref : Ref) : M (List Key) := do (← ownKeys it ref).filterM (isListed it ref)

/-- Does something with the listed properties of an object itself, other than those of some keys.
Which ones are listed is known before any of them is read, unless the object is a proxy. -/
def eachListed (ref : Ref) (taken : List Key) (use : Key → Value → M Unit) : M Unit := do
  let asksLate ← isProxy ref
  let keys ← if asksLate then ownKeys it ref else listedKeys it ref
  for key in keys do
    unless taken.contains key do
      if !asksLate || (← isListed it ref key) then use key (← getProperty it ref key)

/-- The keys of the listed properties of an object itself that are texts. -/
def enumerableKeys (ref : Ref) : M (List Key) := do
  (← ownKeys it ref).filterM fun key => if key.isText then isListed it ref key else return false

end Fingerprint.Script
