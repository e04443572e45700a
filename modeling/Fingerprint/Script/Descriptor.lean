import Fingerprint.Script.Change

/-!
Objects that describe properties, and the fixing of all properties of an object.
-/

namespace Fingerprint.Script

/-! ### Fixing -/

def Property.freeze (property : Property) : Property :=
  match property.content with
  | .data value _ => { property with content := .data value false, configurable := false }
  | .accessor .. => { property with configurable := false }

def Property.seal (property : Property) : Property := { property with configurable := false }

/-- Fixes all properties of an object without a handler. -/
def lockObject (ref : Ref) (lock : Property → Property) (growable : Bool) : M Unit :=
  modifyObject ref fun object =>
    let object := object.spreadItems
    let kind := match object.kind with
      | .array items length current => Kind.array items length (current && growable)
      | kind => kind
    { object with kind := kind, properties := object.properties.map lock, extensible := false }

variable (it : Interpreter)

/-! ### Descriptions of properties -/

/-- A part of a description, unless it is missing. -/
def descriptorPart (ref : Ref) (key : Key) : M (Option Value) := do
  if ← hasProperty it ref key then return some (← getProperty it ref key) else return none

/-- A function of a description. -/
def checkAccessor (part : Option Value) (message : String) : M Unit := do
  match part with
  | none | some .undefined => return
  | some value => unless ← isCallable value do throwType message

/-- The description of a property that an object is. -/
def toDescriptor (value : Value) : M Descriptor := do
  let .object ref := value | throwType "not an object"
  let enumerable ← descriptorPart it ref "enumerable"
  let configurable ← descriptorPart it ref "configurable"
  let found ← descriptorPart it ref "value"
  let writable ← descriptorPart it ref "writable"
  let getter ← descriptorPart it ref "get"
  checkAccessor getter "invalid getter"
  let setter ← descriptorPart it ref "set"
  checkAccessor setter "invalid setter"
  let descriptor : Descriptor :=
    ⟨found, writable.map Value.isTruthy, getter, setter, enumerable.map Value.isTruthy,
      configurable.map Value.isTruthy⟩
  if descriptor.isAccessor && descriptor.isData then
    throwType "cannot have setter/getter and value or writable"
  return descriptor

/-- The object that describes a property. -/
def ofProperty (property : Property) : M Value := do
  let ref ← newObject
  match property.content with
  | .data value writable =>
    createProperty ref "value" value
    createProperty ref "writable" (.bool writable)
  | .accessor getter setter =>
    createProperty ref "get" getter
    createProperty ref "set" setter
  createProperty ref "enumerable" (.bool property.enumerable)
  createProperty ref "configurable" (.bool property.configurable)
  return .object ref

/-- The object that says what a definition says. -/
def ofDescriptor (descriptor : Descriptor) : M Value := do
  let ref ← newObject
  let put (key : Key) (value : Option Value) : M Unit := do
    match value with
    | some value => createProperty ref key value
    | none => return
  put "value" descriptor.value
  put "writable" (descriptor.writable.map Value.bool)
  put "get" descriptor.getter
  put "set" descriptor.setter
  put "enumerable" (descriptor.enumerable.map Value.bool)
  put "configurable" (descriptor.configurable.map Value.bool)
  return .object ref

end Fingerprint.Script
