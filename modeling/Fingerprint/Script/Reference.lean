import Fingerprint.Script.Function

/-!
What can be assigned to: names, members and patterns of them.
-/

namespace Fingerprint.Script

variable (it : Interpreter)

/-! ### Keys -/

/-- The key that an expression in the place of a key denotes. -/
def evaluateKey (env : Env) (key : Expr) : M Key := do
  match key with
  | .literal (.text units) => return .ofUnits units
  | .hiddenName name => hiddenKey env name
  | .group inner => toKey it (← it.expression env inner)
  | other => toKey it (← it.expression env other)

def isHidden : Key → Bool
  | .hidden _ => true
  | _ => false

/-- The value of a member. -/
def readMember (base : Value) (key : Key) : M Value :=
  if isHidden key then readHidden it base key else getOf it base key

/-- The member of the object above the one that a method belongs to. -/
def readSuper (env : Env) (key : Key) : M Value := do
  let frame ← getFrame env.frame
  let this ← readThis env
  match frame.home with
  | some home =>
    match ← prototypeOf it home with
    | some parent => getFrom it parent key this
    | none => return .undefined
  | none => return .undefined

/-- Assigns to a member of the object above the one that a method belongs to. -/
def writeSuper (env : Env) (key : Key) (value : Value) : M Unit := do
  let frame ← getFrame env.frame
  let this ← readThis env
  let parent ← match frame.home with
    | some home => prototypeOf it home
    | none => pure none
  match parent with
  | some parent =>
    let written ← setProperty it parent key value this
    if env.isStrict then reportWritten key written
  | none => setOf it env.isStrict this key value

/-! ### Targets -/

/-- What a value can be assigned to. -/
inductive Target where
  | name (name : String)
  | member (base : Value) (key : Key)
  | superMember (key : Key)
deriving Inhabited

def evaluateTarget (env : Env) (target : Expr) : M Target := do
  match target with
  | .name name => return .name name
  | .member object key =>
    let base ← it.expression env object
    return .member base (← evaluateKey it env key)
  | .superMember key => return .superMember (← evaluateKey it env key)
  | .group (.name name) => return .name name
  | .group (.member object key) =>
    let base ← it.expression env object
    return .member base (← evaluateKey it env key)
  | _ => throwNew .grammar "invalid assignment left-hand side"

def readTarget (env : Env) (target : Target) : M Value := do
  match target with
  | .name name => readName it env name
  | .member base key => readMember it base key
  | .superMember key => readSuper it env key

def writeTarget (env : Env) (target : Target) (value : Value) : M Unit := do
  match target with
  | .name name => writeName it env name value
  | .member base key =>
    if isHidden key then writeHidden it base key value
    else setOf it env.isStrict base key value
  | .superMember key => writeSuper it env key value

/-! ### Functions without a name -/

/-- The name that a target gives to a function assigned to it. -/
def targetName : Expr → Option Units
  | .name name => some (Units.ofString name)
  | _ => none

/-- Evaluates an expression; a function or class without a name takes the one that is given. -/
def evaluateNamed (env : Env) (name : Option Units) (value : Expr) : M Value := do
  match name, value with
  | some name, .function code =>
    if (← codeOf code).name.isEmpty then return .object (← makeFunction env code (some name) none)
    else it.expression env value
  | some name, .classOf definition =>
    let found ← it.expression env (.classOf definition)
    match found with
    | .object ref =>
      match ← ownProperty it ref "name" with
      | some ⟨.data (.text current) _, enumerable, configurable⟩ =>
        if current.isEmpty then
          putProperty ref "name" ⟨.data (.text name) false, enumerable, configurable⟩
      | _ => pure ()
    | _ => pure ()
    return found
  | _, value => it.expression env value

/-! ### Patterns -/

/-- Gives items to the parts of a pattern; `place` counts the items before them. -/
def assignItems (env : Env) (isDeclaration : Bool) (items : Items) : List Expr → Nat → M Bool
  | [], _ => return false
  | part :: rest, place => do
    match part with
    | .spread target =>
      let found ← repeatLoop ((#[] : Array Value), place) fun (found, place) => do
        match ← nextItem it items place with
        | some item => return .inl (found.push item, place + 1)
        | none => return .inr found
      it.assign env isDeclaration target (.object (← newArray found))
      return true
    | part =>
      match ← nextItem it items place with
      | some item =>
        it.assign env isDeclaration part item
        assignItems env isDeclaration items rest (place + 1)
      | none =>
        (part :: rest).forM fun part => do
          match part with
          | .spread target => it.assign env isDeclaration target (.object (← newArray #[]))
          | part => it.assign env isDeclaration part .undefined
        return true

/-- The listed properties of an object without those of some keys, as a new object. -/
def copyWithout (source : Value) (taken : List Key) : M Value := do
  let copy ← newObject
  eachListed it (← toObject source) taken fun key value => createProperty copy key value
  return .object copy

/-- Gives the members of a value to the parts of a pattern. -/
def assignMembers (env : Env) (isDeclaration : Bool) (value : Value) : List Expr → List Key → M Unit
  | [], _ => return
  | part :: rest, taken => do
    match part with
    | .property key target =>
      let key ← evaluateKey it env key
      it.assign env isDeclaration target (← getOf it value key)
      assignMembers env isDeclaration value rest (key :: taken)
    | .spread target =>
      it.assign env isDeclaration target (← copyWithout it value taken)
      assignMembers env isDeclaration value rest taken
    | _ => assignMembers env isDeclaration value rest taken

/-- Gives the parts of a value to a pattern. -/
def assignPattern (env : Env) (isDeclaration : Bool) (pattern : Expr) (value : Value) : M Unit := do
  match pattern with
  | .name name =>
    if isDeclaration then initializeName it env name value else writeName it env name value
  | .hole => return
  | .group inner => it.assign env isDeclaration inner value
  | .assign target standard =>
    let value ← if value.isUndefined then evaluateNamed it env (targetName target) standard
      else pure value
    it.assign env isDeclaration target value
  | .array parts =>
    let items ← openItems it value
    let exhausted ← closingOnError it items (assignItems it env isDeclaration items parts 0)
    unless exhausted do closeItems it items
  | .object parts =>
    if value.isNullish then throwType "Cannot convert undefined or null to object"
    assignMembers it env isDeclaration value parts []
  | target => writeTarget it env (← evaluateTarget it env target) value

end Fingerprint.Script
