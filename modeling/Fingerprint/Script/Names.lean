import Fingerprint.Script.Change

/-!
Names: the scopes that bind them, and the properties of the global object behind those.

Scopes and frames are let go of at the end of what they were made for, unless a function was made
in the meantime, which could refer to them.
-/

namespace Fingerprint.Script

namespace Machine

/-- Lets go of the last scope, if it is the one at this place. -/
def dropScope (machine : Machine) (scope : Nat) : Machine :=
  if machine.heldScopes ≤ scope && machine.scopes.size == scope + 1 then
    { machine with scopes := machine.scopes.pop }
  else machine

/-- Lets go of the last frame, if it is the one at this place. -/
def dropFrame (machine : Machine) (frame : Nat) : Machine :=
  if machine.heldFrames ≤ frame && machine.frames.size == frame + 1 then
    { machine with frames := machine.frames.pop }
  else machine

end Machine

/-- Keeps all scopes and frames that there are. -/
def hold : M Unit :=
  modify fun machine =>
    { machine with heldScopes := machine.scopes.size, heldFrames := machine.frames.size }

/-- Evaluates something in a scope of its own. -/
@[inline] def inScope {α : Type} (outer : Nat) (bindings : Array Binding) (body : Nat → M α) :
    M α :=
  fun machine =>
    let scope := machine.scopes.size
    let inner : Scope := ⟨some outer, bindings, none⟩
    match body scope { machine with scopes := machine.scopes.push inner } with
    | .ok value machine => .ok value (machine.dropScope scope)
    | .error abrupt machine => .error abrupt (machine.dropScope scope)

/-- Evaluates something in a frame of its own. -/
@[inline] def inFrame {α : Type} (frame : Frame) (body : Nat → M α) : M α :=
  fun machine =>
    let place := machine.frames.size
    match body place { machine with frames := machine.frames.push frame } with
    | .ok value machine => .ok value (machine.dropFrame place)
    | .error abrupt machine => .error abrupt (machine.dropFrame place)

def getFrame (frame : Nat) : M Frame := return (← get).frames[frame]?.getD default

/-- Makes a scope that stays. -/
def pushScope (outer : Nat) (bindings : Array Binding) (object : Option Ref) : M Nat := do
  let scope := (← get).scopes.size
  modify fun machine =>
    { machine with scopes := machine.scopes.push ⟨some outer, bindings, object⟩ }
  hold
  return scope

/-- What a name stands for, as far as scopes alone can tell. -/
inductive Resolution where
  /-- A binding, by the place of its scope and its place there. -/
  | binding (place : Nat × Nat)
  /-- A property of the object of a scope, if it has one of that name. -/
  | object (scope : Nat) (ref : Ref)
  | global
deriving Inhabited

/-- Looks for a name in a scope and those around it; `fuel` bounds the scopes. -/
def findName (scopes : Array Scope) (name : String) : Nat → Nat → Resolution
  | 0, _ => .global
  | fuel + 1, place =>
    match scopes[place]? with
    | none => .global
    | some scope =>
      match scope.bindings.findIdx? (·.name == name) with
      | some index => .binding (place, index)
      | none =>
        match scope.object, scope.outer with
        | some ref, _ => .object place ref
        | none, some outer => findName scopes name fuel outer
        | none, none => .global

/-- The binding of a name among the scopes up to the first one with an object. The scopes around a
scope come before it. -/
def bindingOf? (scope : Nat) (name : String) : M (Option (Nat × Nat)) := do
  match findName (← get).scopes name (scope + 1) scope with
  | .binding place => return some place
  | _ => return none

def getBinding (place : Nat × Nat) : M Binding :=
  return (((← get).scopes[place.1]?).bind (·.bindings[place.2]?)).getD default

/-- Gives a binding a value. -/
def setBinding (place : Nat × Nat) (value : Value) : M Unit :=
  modify fun machine =>
    { machine with
      scopes := machine.scopes.modify place.1 fun scope =>
        { scope with
          bindings :=
            scope.bindings.modify place.2 fun binding => { binding with value := some value } } }

def throwUninitialized {α : Type} (name : String) : M α :=
  throwNamed .reference "" name " is not initialized"

def throwUndefined {α : Type} (name : String) : M α :=
  throwNamed .reference "" name " is not defined"

variable (it : Interpreter)

/-- Whether the object of a scope has a name and does not hide it. -/
def showsName (object : Ref) (name : String) : M Bool := do
  let key := Key.ofUnits name
  if ← hasProperty it object key then
    match ← getProperty it object WellKnownSymbol.unscopables.key with
    | .object hidden => return !(← getProperty it hidden key).isTruthy
    | _ => return true
  else return false

/-- What a name stands for; `fuel` bounds the scopes. -/
def resolveFrom (name : String) : Nat → Nat → M Resolution
  | 0, _ => return .global
  | fuel + 1, scope => do
    match findName (← get).scopes name (scope + 1) scope with
    | .object place ref =>
      if ← showsName it ref name then return .object place ref
      else
        match (← get).scopes[place]?.bind (·.outer) with
        | some outer => resolveFrom name fuel outer
        | none => return .global
    | found => return found

def resolve (env : Env) (name : String) : M Resolution :=
  resolveFrom it name (env.scope + 1) env.scope

/-- The value of a name, unless nothing has this name. -/
def readName? (env : Env) (name : String) : M (Option Value) := do
  match ← resolve it env name with
  | .binding place =>
    match (← getBinding place).value with
    | some value => return some value
    | none => throwUninitialized name
  | .object _ ref => return some (← getProperty it ref (.ofUnits name))
  | .global =>
    let key := Key.ofUnits name
    match ← lookup Intrinsic.global.ref key with
    | .absent => return none
    | .property property => return some (← readProperty it Intrinsic.global.value property)
    | .handled ref =>
      if ← it.handled.has ref key then
        return some (← it.handled.get ref key Intrinsic.global.value)
      else return none

def readName (env : Env) (name : String) : M Value := do
  match ← readName? it env name with
  | some value => return value
  | none => throwUndefined name

/-- Gives what a name stands for a value. -/
def writeResolved (env : Env) (resolution : Resolution) (name : String) (value : Value) :
    M Unit := do
  match resolution with
  | .binding place =>
    let binding ← getBinding place
    if binding.value.isNone then throwUninitialized name
    match binding.kind with
    | .variable => setBinding place value
    | .constant => throwNamed .type "'" name "' is read-only"
    | .silent => if env.isStrict then throwNamed .type "'" name "' is read-only"
  | .object _ ref => setOf it env.isStrict (.object ref) (.ofUnits name) value
  | .global =>
    let key := Key.ofUnits name
    let known ← hasProperty it Intrinsic.global.ref key
    if env.isStrict && !known then throwUndefined name
    setOf it env.isStrict Intrinsic.global.value key value

/-- Assigns to a name. -/
def writeName (env : Env) (name : String) (value : Value) : M Unit := do
  writeResolved it env (← resolve it env name) name value

/-- Gives a name that has been declared its first value. -/
def initializeName (env : Env) (name : String) (value : Value) : M Unit := do
  match ← bindingOf? env.scope name with
  | some place => setBinding place value
  | none => setOf it env.isStrict Intrinsic.global.value (.ofUnits name) value

/-- The bindings of declared names, without values. -/
def declaredBindings (names : List Declared) : Array Binding :=
  (names.map fun declared => ⟨declared.name, none, declared.kind⟩).toArray

/-! ### Names that are hidden in classes -/

/-- The name under which the key of a hidden name is bound. -/
def hiddenBinding (name : String) : String := "#" ++ name

def hiddenKey (env : Env) (name : String) : M Key := do
  match ← bindingOf? env.scope (hiddenBinding name) with
  | some place =>
    match (← getBinding place).value with
    | some (.number id) => return .hidden id.toUInt64.toNat
    | _ => return .hidden 0
  | none => throwNamed .grammar "undefined private field '" (hiddenBinding name) "'"

/-- Makes keys for names that are hidden in a class. -/
def hiddenBindings (names : List HiddenName) : M (Array Binding) := do
  let first := (← get).hiddenNames.size
  modify fun machine => { machine with hiddenNames := machine.hiddenNames ++ names.toArray }
  return (names.zipIdx.map fun (declared, index) =>
    ⟨hiddenBinding declared.name, some (.ofNat (first + index)), .constant⟩).toArray

/-- What the hidden name of a key stands for. -/
def hiddenKind (key : Key) : M HiddenKind := do
  match key with
  | .hidden id => return ((← get).hiddenNames[id]?.getD default).kind
  | _ => return .field

/-- A hidden member of an object. Fields are looked for by their names, all else by the class that
the object was made by. -/
def hiddenMember (kind : HiddenKind) (base : Value) (key : Key) : M (Ref × Property) := do
  match base with
  | .object ref =>
    match ← ownProperty it ref key with
    | some property => return (ref, property)
    | none =>
      if kind = .field then throwKeyed .type "private class field '" key "' does not exist"
      else throwType "invalid brand on object"
  | _ => throwType "not an object"

def throwHiddenReadOnly {α : Type} (key : Key) : M α := throwKeyed .type "'" key "' is read-only"

/-- The value of a hidden member. That there is no getter is known without the object. -/
def readHidden (base : Value) (key : Key) : M Value := do
  let kind ← hiddenKind key
  if kind = .setter then throwHiddenReadOnly key
  let (_, property) ← hiddenMember it kind base key
  readProperty it base property

/-- Assigns to a hidden member. That nothing can be assigned is known without the object. -/
def writeHidden (base : Value) (key : Key) (value : Value) : M Unit := do
  let kind ← hiddenKind key
  if kind = .method || kind = .getter then throwHiddenReadOnly key
  let (ref, property) ← hiddenMember it kind base key
  match property.content with
  | .data .. => putProperty ref key { property with content := .data value true }
  | .accessor _ setter =>
    let _ ← it.call setter base #[value]
    return

end Fingerprint.Script
