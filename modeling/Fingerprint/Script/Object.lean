import Fingerprint.Script.Element
import Fingerprint.Script.Pattern.Match
import Fingerprint.Script.Syntax
import Std.Data.HashMap

/-!
Objects: properties in the order in which they were added, and what an object is besides them.
-/

namespace Fingerprint.Script

/-- What a property is called. -/
inductive Key where
  /-- The canonical text of a natural number that can be the place of an array item. -/
  | index (index : Nat)
  | name (name : Units)
  | symbol (id : Nat)
  /-- A name that is hidden outside the class that it was made for. -/
  | hidden (id : Nat)
deriving DecidableEq, Hashable, Inhabited

namespace Key

/-- The number that a text of digits writes without a zero at its front. -/
def indexOf? (units : Units) : Option Nat :=
  let size := units.length
  if size = 0 || 10 < size then none
  else if units.data[0]? == some 0x30 then if size = 1 then some 0 else none
  else
    let value := units.data.foldl (fun value unit =>
      value.bind fun total =>
        if 0x30 ≤ unit && unit ≤ 0x39 then some (total * 10 + (unit.toNat - 0x30)) else none)
      (some 0)
    value.filter (· < 4294967295)

def ofUnits (units : Units) : Key :=
  match indexOf? units with
  | some place => .index place
  | none => .name units

instance : Coe String Key := ⟨fun text => .name (Units.ofString text)⟩

/-- The value that a key is listed as. -/
def toValue : Key → Value
  | .index place => .text (toString place)
  | .name units => .text units
  | .symbol id => .symbol id
  | .hidden _ => .undefined

def isText : Key → Bool
  | .index _ | .name _ => true
  | _ => false

def isSymbol : Key → Bool
  | .symbol _ => true
  | _ => false

end Key

/-- What a property holds. -/
inductive Content where
  | data (value : Value) (writable : Bool)
  | accessor (getter setter : Value)
deriving Inhabited

structure Property where
  content : Content
  enumerable : Bool
  configurable : Bool
deriving Inhabited

namespace Property

/-- A property as an assignment makes it. -/
def plain (value : Value) : Property := ⟨.data value true, true, true⟩

/-- A property that is not listed. -/
def unlisted (value : Value) : Property := ⟨.data value true, false, true⟩

/-- A property that cannot be changed. -/
def fixed (value : Value) : Property := ⟨.data value false, false, false⟩

end Property

/-- Properties in the order in which they were added; larger tables have an index. -/
structure PropertyTable where
  entries : Array (Key × Property)
  places : Option (Std.HashMap Key Nat)
deriving Inhabited

namespace PropertyTable

def empty : PropertyTable := ⟨#[], none⟩

/-- The number of entries from which on there is an index. -/
def indexedFrom : Nat := 12

def find? (table : PropertyTable) (key : Key) : Option Nat :=
  match table.places with
  | some places => places[key]?
  | none => table.entries.findIdx? fun entry => entry.1 == key

def get? (table : PropertyTable) (key : Key) : Option Property := do
  return (← table.entries[← table.find? key]?).2

def indexEntries (entries : Array (Key × Property)) : Option (Std.HashMap Key Nat) :=
  if entries.size < indexedFrom then none
  else some (entries.zipIdx.foldl (fun places (entry, place) => places.insert entry.1 place) ∅)

/-- Adds a property or replaces the one of its key. -/
def set (table : PropertyTable) (key : Key) (property : Property) : PropertyTable :=
  let found := table.find? key
  let ⟨entries, places⟩ := table
  match found, places with
  | some place, places => ⟨entries.setIfInBounds place (key, property), places⟩
  | none, some places =>
    let places := places.insert key entries.size
    ⟨entries.push (key, property), some places⟩
  | none, none =>
    let entries := entries.push (key, property)
    ⟨entries, indexEntries entries⟩

def erase (table : PropertyTable) (key : Key) : PropertyTable :=
  let entries := table.entries.filter fun entry => entry.1 != key
  ⟨entries, indexEntries entries⟩

def keys (table : PropertyTable) : List Key := table.entries.toList.map (·.1)

/-- Changes every property. -/
def map (table : PropertyTable) (change : Property → Property) : PropertyTable :=
  { table with entries := table.entries.map fun (key, property) => (key, change property) }

end PropertyTable

/-- Where code is evaluated: the names in scope and the call that it belongs to. -/
structure Env where
  scope : Nat
  frame : Nat
  /-- The scope of the variables that evaluated texts declare. -/
  variableScope : Nat
  isStrict : Bool
  /-- Whether the values of statements count, as they do outside functions. -/
  keepsValues : Bool
deriving Inhabited

/-- The groups of functions that scripts find ready. -/
inductive Library where
  | global
  | object | objectPrototype
  | function | functionPrototype
  | array | arrayPrototype
  | text | textPrototype
  | number | numberPrototype
  | boolean | booleanPrototype
  | symbol | symbolPrototype
  | bigInt | bigIntPrototype
  | math
  | json
  | regex | regexPrototype
  | error | errorPrototype
  | map | mapPrototype
  | set | setPrototype
  | weak | weakMapPrototype | weakSetPrototype | weakPrototype
  | promise | promisePrototype
  | reflect
  | date | datePrototype
  | iterator | iteratorPrototype | asyncIteratorPrototype
  | cursorPrototype
  | generatorPrototype | asyncGeneratorPrototype
  | helperPrototype | wrapperPrototype
  | proxy
  | buffer | bufferPrototype | sharedBufferPrototype
  | view | viewPrototype
  | dataView | dataViewPrototype
  | atomics
  | performance
deriving DecidableEq, Repr, Inhabited

/-- A function that scripts find ready, by its group and name. -/
structure Native where
  library : Library
  name : String
deriving DecidableEq, Repr, Inhabited

/-- What a constructor of a class adds to the objects that it makes. -/
inductive InstancePart where
  /-- A field with the function that yields its value. -/
  | field (key : Key) (value : Option Value)
  | hidden (key : Key) (property : Property)
deriving Inhabited

/-- A function with the place where it was made. -/
structure Closure where
  code : CodeRef
  env : Env
  /-- The object whose prototype `super` refers to. -/
  home : Option Ref
  parts : List InstancePart
  /-- Whether the function is a constructor of a class. -/
  isClass : Bool
deriving Inhabited

/-- What an iterator yields of each entry. -/
inductive EntryPart where
  | key
  | value
  | both
deriving DecidableEq, Repr, Inhabited

/-- The sorts of iterators over what is there already. -/
inductive CursorSort where
  | items
  | map
  | set
  | text
  | matches
deriving DecidableEq, Repr, Inhabited

/-- The state of an iterator over what is there already. -/
inductive Cursor where
  | items (target : Ref) (next : Nat) (part : EntryPart)
  | map (target : Ref) (next : Nat) (part : EntryPart)
  | set (target : Ref) (next : Nat) (part : EntryPart)
  | text (units : Units) (next : Nat)
  /-- The places where an expression matches in a text, all of them or the next one only. -/
  | matches (regex : Ref) (units : Units) (isGlobal isUnicode : Bool)
  | finished (sort : CursorSort)
deriving Inhabited

/-- Where items come from. -/
inductive Items where
  | array (ref : Ref)
  | cursor (ref : Ref)
  | custom (iterator next : Value)
deriving Inhabited

/-- What an iterator does with the items of the one that it was made from. -/
inductive HelperTask where
  | map (function : Value)
  | filter (function : Value)
  | take (left : Float)
  | drop (left : Float)
  | flatMap (function : Value) (inner : Option (Value × Value))
deriving Inhabited

/-- An iterator that was made from another one. -/
structure Helper where
  task : HelperTask
  iterator : Value
  next : Value
  /-- The number of items taken so far. -/
  count : Nat
  isRunning : Bool
  isDone : Bool
deriving Inhabited

/-! ### Functions that pause -/

/-- How a statement ends. -/
inductive Flow where
  | normal
  | broken (label : Option String)
  | continued (label : Option String)
  | returned (value : Value)
deriving Inhabited

/-- How a part of a function that can pause has ended. -/
inductive Ending where
  | flow (flow : Flow)
  | thrown (value : Value)
deriving Inhabited

/-- What is left to be done with the value or the ending of a part of a function that can pause. -/
inductive Pending where
  /-- The value is an operand of an expression, whose operands in front of it are literals. -/
  | operand (env : Env) (form : Expr) (place : Nat)
  | branch (env : Env) (yes no : Expr)
  | logical (env : Env) (op : LogicalOp) (right : Expr)
  | second (env : Env) (next : Expr)
  | compound (env : Env) (op : BinaryOp) (target : Expr) (before : Value)
  | store (env : Env) (target : Expr)
  | chainEnd
  | orSkip
  /-- The value is handed out. -/
  | yielding
  | delegate
  | delegating (iterator next : Value)
  /-- Members of an object literal: a key, a value, and values of another object. -/
  | memberKey (env : Env) (object : Ref) (value : Expr) (rest : List Expr)
  | memberValue (env : Env) (object : Ref) (key : Expr) (rest : List Expr)
  | memberSpread (env : Env) (object : Ref) (rest : List Expr)
  /-- The value is given to a pattern. -/
  | pattern (env : Env) (isDeclaration : Bool) (pattern : Expr)
  | arrayPattern (env : Env) (isDeclaration : Bool) (items : Items) (rest : List Expr) (place : Nat)
  | objectPattern (env : Env) (isDeclaration : Bool) (value : Value) (rest : List Expr)
    (taken : List Key)
  | result (value : Value)
  /-- Statements. -/
  | expressionStatement
  | statements (env : Env) (rest : List Stmt)
  | declare (env : Env) (isDeclaration : Bool) (target : Expr) (rest : List Expr)
  | declared (env : Env) (isDeclaration : Bool) (rest : List Expr)
  | choice (env : Env) (yes no : Stmt)
  | loopStart (env : Env) (labels : List String) (hasNames : Bool) (test step : Option Expr)
    (body : Stmt)
  | loopTest (env : Env) (labels : List String) (hasNames : Bool) (test step : Option Expr)
    (body : Stmt)
  | loopBody (env : Env) (labels : List String) (hasNames : Bool) (test step : Option Expr)
    (body : Stmt)
  | loopStep (env : Env) (labels : List String) (hasNames : Bool) (test step : Option Expr)
    (body : Stmt)
  | doTest (env : Env) (labels : List String) (body : Stmt) (test : Expr)
  | doBody (env : Env) (labels : List String) (body : Stmt) (test : Expr)
  | namesOf (env : Env) (labels : List String) (head : HeadKind) (target : Expr) (body : Stmt)
  | names (env : Env) (labels : List String) (head : HeadKind) (target : Expr) (body : Stmt)
    (object : Ref) (rest : List Key)
  | itemsOf (env : Env) (labels : List String) (head : HeadKind) (target : Expr) (body : Stmt)
  | items (env : Env) (labels : List String) (head : HeadKind) (target : Expr) (body : Stmt)
    (items : Items) (place : Nat)
  /-- The body of a loop, behind what its target gets. -/
  | turn (env : Env) (body : Stmt)
  | returnValue
  | throwValue
  | handler (env : Env) (names : List Declared) (parameter : Option Expr) (handler : Stmt)
  | finalizer (env : Env) (finalizer : Stmt)
  | finished (ending : Ending)
  | switch (env : Env) (declarations : Declarations) (cases : List Stmt)
  | caseTest (env : Env) (value : Value) (cases rest : List Stmt)
  | cases (env : Env) (rest : List Stmt)
  | labels (labels : List String)
deriving Inhabited

/-- The state of a call of a generator. -/
inductive Generator where
  | waiting (code : CodeRef) (env : Env)
  | paused (rest : List Pending)
  | running
  | finished
deriving Inhabited

/-! ### Collections -/

/-- What makes two values the same entry of a collection. -/
inductive Identity where
  | undefined
  | null
  | bool (value : Bool)
  | number (bits : UInt64)
  | bigInt (value : Int)
  | text (value : Units)
  | symbol (id : Nat)
  | object (ref : Ref)
deriving DecidableEq, Hashable, Inhabited

/-- The zeros are the same entry, and so is every number that is none. -/
def Value.identity : Value → Identity
  | .undefined => .undefined
  | .null => .null
  | .bool value => .bool value
  | .number value =>
    .number (if value == 0 then 0 else if value.isNaN then 0x7FF8000000000000 else value.toBits)
  | .bigInt value => .bigInt value
  | .text units => .text units
  | .symbol id => .symbol id
  | .object ref => .object ref

/-- Entries in the order in which they were added; removed ones leave their places empty. -/
structure EntryTable where
  entries : Array (Option (Value × Value))
  places : Std.HashMap Identity Nat
deriving Inhabited

namespace EntryTable

def empty : EntryTable := ⟨#[], ∅⟩

def size (table : EntryTable) : Nat := table.places.size

def get? (table : EntryTable) (key : Value) : Option Value := do
  let entry ← table.entries[← table.places[key.identity]?]?
  return (← entry).2

def contains (table : EntryTable) (key : Value) : Bool := table.places.contains key.identity

/-- The key of an entry: the negative zero is kept as the positive one. -/
def keyOf : Value → Value
  | .number value => if value == 0 then .number 0 else .number value
  | other => other

def insert (table : EntryTable) (key value : Value) : EntryTable :=
  let ⟨entries, places⟩ := table
  match places[key.identity]? with
  | some place => ⟨entries.setIfInBounds place (some (keyOf key, value)), places⟩
  | none =>
    let places := places.insert key.identity entries.size
    ⟨entries.push (some (keyOf key, value)), places⟩

def erase (table : EntryTable) (key : Value) : EntryTable :=
  let ⟨entries, places⟩ := table
  match places[key.identity]? with
  | some place => ⟨entries.setIfInBounds place none, places.erase key.identity⟩
  | none => ⟨entries, places⟩

def clear (table : EntryTable) : EntryTable := ⟨table.entries.map fun _ => none, ∅⟩

/-- The first entry from a place on, with the place behind it; `count` places are looked at. -/
def search (entries : Array (Option (Value × Value))) :
    Nat → Nat → Option ((Value × Value) × Nat)
  | 0, _ => none
  | count + 1, place =>
    match entries[place]? with
    | some (some entry) => some (entry, place + 1)
    | some none => search entries count (place + 1)
    | none => none

def next? (table : EntryTable) (place : Nat) : Option ((Value × Value) × Nat) :=
  search table.entries (table.entries.size - place) place

end EntryTable

/-! ### Kinds of objects -/

/-- Bytes that views show. -/
structure Buffer where
  bytes : ByteArray
  /-- How many bytes it can grow to, if it can. -/
  largest : Option Nat
  isDetached : Bool
  isShared : Bool
deriving Inhabited

/-- What an object is besides its properties. -/
inductive Kind where
  | ordinary
  /-- An array with the items at its front, of which some may be missing. -/
  | array (items : Array (Option Value)) (length : Nat) (growable : Bool)
  | closure (closure : Closure)
  | native (native : Native)
  /-- A function of the library that refers to values. -/
  | linked (native : Native) (values : Array Value)
  | bound (target : Ref) (this : Value) (arguments : Array Value) (constructs : Bool)
  | error
  | arguments
  /-- The arguments of a function whose parameters, by their places among the bindings of a scope,
  have the same values. -/
  | mappedArguments (scope : Nat) (places : Array (Option Nat))
  /-- An object around a value. -/
  | wrapped (value : Value)
  | regex (pattern : Pattern)
  | date (time : Float)
  | map (entries : EntryTable)
  | set (entries : EntryTable)
  | weakMap (entries : EntryTable)
  | weakSet (entries : EntryTable)
  | weakRef (target : Value)
  /-- A registry with the tokens of what has been registered. -/
  | finalization (tokens : EntryTable)
  | promise
  | cursor (cursor : Cursor)
  | generator (generator : Generator)
  | asyncGenerator (generator : Generator)
  | helper (helper : Helper)
  /-- An iterator around one that does not inherit what iterators have. -/
  | wrapper (iterator next : Value)
  /-- An object that leaves what is done with it to a handler; without a link it is revoked. -/
  | proxy (link : Option (Ref × Ref)) (isCallable isConstructor : Bool)
  | buffer (buffer : Buffer)
  | view (view : View)
  | dataView (view : View)
deriving Inhabited

structure Object where
  prototype : Option Ref
  kind : Kind
  properties : PropertyTable
  extensible : Bool
deriving Inhabited

namespace Object

def ofKind (prototype : Option Ref) (kind : Kind) : Object := ⟨prototype, kind, .empty, true⟩

end Object

end Fingerprint.Script
