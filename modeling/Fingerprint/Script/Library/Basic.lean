import Fingerprint.Script.Function
import Fingerprint.Script.Handler
import Fingerprint.Script.Operators

/-!
What the functions of the library share.
-/

namespace Fingerprint.Script

/-- A call of a function of the library. -/
structure LibraryCall where
  this : Value
  arguments : Array Value
  /-- The constructor that `new` was used with; undefined in a call without `new`. -/
  newTarget : Value
  /-- The function itself. -/
  function : Value
deriving Inhabited

namespace LibraryCall

/-- An argument; one that is missing is undefined. -/
def argument (call : LibraryCall) (place : Nat) : Value := call.arguments[place]?.getD .undefined

def first (call : LibraryCall) : Value := call.argument 0

def second (call : LibraryCall) : Value := call.argument 1

def isConstruction (call : LibraryCall) : Bool := !call.newTarget.isUndefined

end LibraryCall

/-- A property that an object of the library has from the start. -/
inductive LibraryMember where
  | method (name : String) (length : Nat)
  /-- A method under a symbol. -/
  | keyed (symbol : WellKnownSymbol) (length : Nat)
  | getter (name : String)
  | accessor (name : String)
  | keyedGetter (symbol : WellKnownSymbol)
  | keyedAccessor (symbol : WellKnownSymbol)
  /-- The value of another property. -/
  | alias (name source : String)
  | keyedAlias (symbol : WellKnownSymbol) (source : String)
  /-- The value of the global name. -/
  | global (name : String)
  | data (name : String) (value : Value)
  /-- A value that cannot be changed, be it by another definition or not. -/
  | locked (name : String) (value : Value)
  | fixed (name : String) (value : Value)
  /-- A value under a symbol; it can only be defined anew. -/
  | keyedData (symbol : WellKnownSymbol) (value : Value)
  /-- The word that the texts of objects show. -/
  | tag (text : String)

/-- Properties whose functions belong to one group. -/
structure LibraryGroup where
  library : Library
  members : List LibraryMember

namespace LibraryGroup

/-- A group of methods, given by their names and lengths. -/
def ofList (library : Library) (entries : List (String × Nat)) : LibraryGroup :=
  ⟨library, entries.map fun (name, length) => .method name length⟩

def append (group : LibraryGroup) (members : List LibraryMember) : LibraryGroup :=
  { group with members := group.members ++ members }

end LibraryGroup

/-- The functions of a group that have a name, and what a call of each does. -/
abbrev LibraryCode := String → LibraryCall → M Value

def notFunction {α : Type} : M α := throwType "not a function"

/-- A function that was given as an argument. -/
def requireCallable (value : Value) : M Value := do
  if ← isCallable value then return value else notFunction

def requireObject (value : Value) : M Ref := do
  match value with
  | .object ref => return ref
  | _ => throwType "not an object"

/-- A method was called on an object of another class. -/
def throwClass {α : Type} (name : String) : M α := throwType (name ++ " object expected")

/-- One of the values that a function refers to. -/
def heldValue (function : Value) (place : Nat) : M Value := do
  match function with
  | .object ref =>
    match (← getObject ref).kind with
    | .linked _ values => return values[place]?.getD .undefined
    | _ => return .undefined
  | _ => return .undefined

variable (it : Interpreter)

/-- The constructor that an object names for objects that are made from it. -/
def speciesOf (object : Value) (standard : Value) : M Value := do
  let ref ← requireObject object
  match ← getProperty it ref "constructor" with
  | .undefined => return standard
  | .object constructor =>
    let species ← getProperty it constructor WellKnownSymbol.species.key
    if species.isNullish then return standard
    else if ← isConstructor species then return species
    else throwType "not a constructor"
  | _ => throwType "not an object"

/-- A place or a number of items that a value denotes. -/
def toIndex (value : Value) : M Nat := do
  let number ← toIntegral it value
  if number < 0 || 9007199254740991 < number then throwRange "invalid array index"
  return number.toUInt64.toNat

/-- A place in a sequence that an argument denotes; a missing one denotes `standard`. -/
def placeArgument (value : Value) (length standard : Nat) : M Nat := do
  match value with
  | .undefined => return standard
  | value => return Number.place (← toNumber it value) length

end Fingerprint.Script
