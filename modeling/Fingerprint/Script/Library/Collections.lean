import Fingerprint.Script.Library.Basic

/-!
The functions of maps and sets, and of what refers to objects without keeping them.

An entry that is removed leaves a gap, so that iterators keep their places.
-/

namespace Fingerprint.Script.Standard

variable (it : Interpreter)

/-! ### New collections -/

/-- The method by which the items that a collection is made of are added to it. -/
structure Adding where
  method : Key
  isPairs : Bool

/-- Fills a new collection from the items of a value with one of its own methods. -/
def fillFrom (collection items : Value) (adding : Adding) : M Unit := do
  unless items.isNullish do
    let add ← getOf it collection adding.method
    unless ← isCallable add do throwType "set/add is not a function"
    eachItem it items () (fun _ item => do
      if adding.isPairs then
        let pair ← requireObject item
        let key ← getProperty it pair (.index 0)
        let _ ← it.call add collection #[key, ← getProperty it pair (.index 1)]
      else
        let _ ← it.call add collection #[item]
      return .inl ()) pure

def newCollection (call : LibraryCall) (standard : Intrinsic) (kind : Kind) (adding : Adding) :
    M Value := do
  unless call.isConstruction do throwType "must be called with new"
  let prototype ← prototypeFor it call.newTarget standard
  let collection := Value.object (← allocate (.ofKind (some prototype) kind))
  fillFrom it collection call.first adding
  return collection

def addingPairs : Adding := ⟨"set", true⟩

def addingItems : Adding := ⟨"add", false⟩

/-! ### Maps -/

/-- A map with its entries. -/
def mapOf (this : Value) : M (Ref × EntryTable) := do
  match this with
  | .object ref =>
    match (← getObject ref).kind with
    | .map entries => return (ref, entries)
    | _ => throwClass "Map"
  | _ => throwClass "Map"

/-- Changes the entries of a collection in their place. -/
@[inline] def modifyEntries (ref : Ref) (change : EntryTable → EntryTable) : M Unit :=
  modifyObject ref fun object =>
    match object with
    | ⟨prototype, .map entries, properties, extensible⟩ =>
      ⟨prototype, .map (change entries), properties, extensible⟩
    | ⟨prototype, .set entries, properties, extensible⟩ =>
      ⟨prototype, .set (change entries), properties, extensible⟩
    | ⟨prototype, .weakMap entries, properties, extensible⟩ =>
      ⟨prototype, .weakMap (change entries), properties, extensible⟩
    | ⟨prototype, .weakSet entries, properties, extensible⟩ =>
      ⟨prototype, .weakSet (change entries), properties, extensible⟩
    | other => other

/-- The number of bytes that an entry takes. -/
def entryBytes (key : Value) : Nat := propertyBytes + valueBytes key

/-- Calls a function with each entry, those included that are added meanwhile. -/
def eachEntry (call : LibraryCall) (entries : M EntryTable) : M Value := do
  let function ← requireCallable call.first
  repeatLoop 0 fun place => do
    match (← entries).next? place with
    | some ((key, value), next) =>
      let _ ← it.call function call.second #[value, key, call.this]
      return .inl next
    | none => return .inr Value.undefined

/-- Removes an entry, and tells whether there was one. -/
def deleteEntry (ref : Ref) (entries : EntryTable) (key : Value) : M Value := do
  let isThere := entries.contains key
  if isThere then modifyEntries ref (·.erase key)
  return .bool isThere

def mapPrototype : LibraryCode := fun name call => do
  let (ref, entries) ← mapOf call.this
  match name with
  | "get" => return (entries.get? call.first).getD .undefined
  | "set" =>
    reserve (entries.size * entryBytes call.first)
    modifyEntries ref (·.insert call.first call.second)
    return call.this
  | "has" => return .bool (entries.contains call.first)
  | "delete" => deleteEntry ref entries call.first
  | "clear" =>
    modifyEntries ref EntryTable.clear
    return .undefined
  | "forEach" => eachEntry it call (return (← mapOf call.this).2)
  | "keys" => newCursor (.map ref 0 .key)
  | "values" => newCursor (.map ref 0 .value)
  | "entries" => newCursor (.map ref 0 .both)
  | _ => return .ofNat entries.size

def mapPrototypeGroup : LibraryGroup where
  library := .mapPrototype
  members :=
    [ .method "set" 2, .method "get" 1, .method "has" 1, .method "delete" 1, .method "clear" 0,
      .getter "size", .method "forEach" 1, .method "values" 0, .method "keys" 0,
      .method "entries" 0, .keyedAlias .iterator "entries", .tag "Map" ]

def mapGroupBy (items function : Value) : M Value := do
  let function ← requireCallable function
  let (groups, _) ← eachItem it items (EntryTable.empty, 0) (fun (groups, count) item => do
    let key ← it.call function .undefined #[item, .ofNat count]
    match groups.get? key with
    | some (.object group) =>
      createProperty group (.index (← lengthOf it group)) item
      return .inl (groups, count + 1)
    | _ => return .inl (groups.insert key (.object (← newArray #[item])), count + 1)) pure
  return .object (← allocate (.ofKind (some Intrinsic.mapPrototype.ref) (.map groups)))

def mapCode : LibraryCode := fun name call =>
  match name with
  | "groupBy" => mapGroupBy it call.first call.second
  | "get [Symbol.species]" => return call.this
  | _ => newCollection it call .mapPrototype (.map .empty) addingPairs

def mapGroup : LibraryGroup := ⟨.map, [.method "groupBy" 2, .keyedGetter .species]⟩

/-! ### Sets -/

/-- A set with its members. -/
def setOfValue (this : Value) : M (Ref × EntryTable) := do
  match this with
  | .object ref =>
    match (← getObject ref).kind with
    | .set members => return (ref, members)
    | _ => throwClass "Set"
  | _ => throwClass "Set"

def newSet (members : EntryTable) : M Value :=
  return .object (← allocate (.ofKind (some Intrinsic.setPrototype.ref) (.set members)))

def addMember (members : EntryTable) (member : Value) : EntryTable :=
  if members.contains member then members
  else members.insert member (EntryTable.keyOf member)

/-- What another collection can be asked. -/
structure SetLike where
  this : Value
  size : Float
  has : Value
  keys : Value

/-- A method of a collection. -/
def setLikeMethod (this : Value) (name : String) : M Value := do
  let method ← getOf it this (.ofUnits name)
  if method.isUndefined then throwType ("." ++ name ++ " is undefined")
  unless ← isCallable method do throwType ("." ++ name ++ " is not a function")
  return method

def setLikeOf (this : Value) : M SetLike := do
  let size ← match ← getOf it this "size" with
    | .undefined => throwType ".size is undefined"
    | size => toNumber it size
  if size.isNaN then throwType ".size is not a number"
  let has ← setLikeMethod it this "has"
  return ⟨this, size, has, ← setLikeMethod it this "keys"⟩

def SetLike.contains (other : SetLike) (member : Value) : M Bool :=
  return (← it.call other.has other.this #[member]).isTruthy

/-- Goes through the keys of another collection until a step yields a result. -/
def SetLike.eachKey {σ β : Type} (other : SetLike) (start : σ) (step : σ → Value → M (σ ⊕ β))
    (atEnd : σ → β) : M β := do
  let iterator ← it.call other.keys other.this #[]
  let next ← getOf it iterator "next"
  repeatLoop start fun state => do
    match ← itemOfResult it (← it.call next iterator #[]) with
    | none => return .inr (atEnd state)
    | some key => step state key

/-- Goes through the members of a set until a step yields a result. -/
def eachMember {σ β : Type} (set : Ref) (start : σ) (step : σ → Value → M (σ ⊕ β)) (atEnd : σ → β) :
    M β :=
  repeatLoop (start, 0) fun (state, place) => do
    match (← setOfValue (.object set)).2.next? place with
    | some ((member, _), next) =>
      match ← step state member with
      | .inl state => return .inl (state, next)
      | .inr result => return .inr result
    | none => return .inr (atEnd state)

/-- Whether a set has more members than another collection. -/
def isLarger (members : EntryTable) (other : SetLike) : Bool :=
  other.size < Float.ofNat members.size

/-- The members that are in another collection too. -/
def intersection (set : Ref) (members : EntryTable) (other : SetLike) : M Value := do
  let found ← if isLarger members other then
      other.eachKey it EntryTable.empty (fun found key => do
        let isShared := (← setOfValue (.object set)).2.contains key
        return .inl (if isShared then addMember found key else found)) id
    else
      eachMember set EntryTable.empty (fun found member => do
        return .inl (if ← other.contains it member then addMember found member else found)) id
  newSet found

/-- The members that are not in another collection. -/
def difference (set : Ref) (members : EntryTable) (other : SetLike) : M Value := do
  let found ← if isLarger members other then
      other.eachKey it members (fun found key => return .inl (found.erase key)) id
    else
      eachMember set EntryTable.empty (fun found member => do
        return .inl (if ← other.contains it member then found else addMember found member)) id
  newSet found

/-- The members of one of two collections only. -/
def symmetricDifference (set : Ref) (members : EntryTable) (other : SetLike) : M Value := do
  let found ← other.eachKey it members (fun found key => do
    let isShared := (← setOfValue (.object set)).2.contains key
    return .inl (if isShared then found.erase key else addMember found key)) id
  newSet found

def union (members : EntryTable) (other : SetLike) : M Value := do
  newSet (← other.eachKey it members (fun found key => return .inl (addMember found key)) id)

def isSubset (set : Ref) (members : EntryTable) (other : SetLike) : M Value := do
  if isLarger members other then return .bool false
  eachMember set () (fun _ member => do
    if ← other.contains it member then return .inl () else return .inr (.bool false))
    fun _ => .bool true

def isSuperset (set : Ref) (members : EntryTable) (other : SetLike) : M Value := do
  if Float.ofNat members.size < other.size then return .bool false
  other.eachKey it () (fun _ key => do
    if (← setOfValue (.object set)).2.contains key then return .inl ()
    else return .inr (.bool false))
    fun _ => .bool true

def isDisjoint (set : Ref) (members : EntryTable) (other : SetLike) : M Value := do
  if isLarger members other then
    other.eachKey it () (fun _ key => do
      if (← setOfValue (.object set)).2.contains key then return .inr (.bool false)
      else return .inl ())
      fun _ => .bool true
  else
    eachMember set () (fun _ member => do
      if ← other.contains it member then return .inr (.bool false) else return .inl ())
      fun _ => .bool true

/-- What a set and another collection yield together. -/
def combineSets (name : String) (set : Ref) (members : EntryTable) (other : Value) : M Value := do
  let other ← setLikeOf it other
  match name with
  | "union" => union it members other
  | "intersection" => intersection it set members other
  | "difference" => difference it set members other
  | "symmetricDifference" => symmetricDifference it set members other
  | "isSubsetOf" => isSubset it set members other
  | "isSupersetOf" => isSuperset it set members other
  | _ => isDisjoint it set members other

def setPrototypeCode : LibraryCode := fun name call => do
  let (ref, members) ← setOfValue call.this
  match name with
  | "add" =>
    reserve (members.size * entryBytes call.first)
    modifyEntries ref (addMember · call.first)
    return call.this
  | "has" => return .bool (members.contains call.first)
  | "delete" => deleteEntry ref members call.first
  | "clear" =>
    modifyEntries ref EntryTable.clear
    return .undefined
  | "forEach" => eachEntry it call (return (← setOfValue call.this).2)
  | "values" => newCursor (.set ref 0 .value)
  | "entries" => newCursor (.set ref 0 .both)
  | "get size" => return .ofNat members.size
  | name => combineSets it name ref members call.first

def setPrototypeGroup : LibraryGroup where
  library := .setPrototype
  members :=
    [ .method "add" 1, .method "has" 1, .method "delete" 1, .method "clear" 0, .getter "size",
      .method "forEach" 1, .method "isDisjointFrom" 1, .method "isSubsetOf" 1,
      .method "isSupersetOf" 1, .method "intersection" 1, .method "difference" 1,
      .method "symmetricDifference" 1, .method "union" 1, .method "values" 0,
      .alias "keys" "values", .keyedAlias .iterator "values", .method "entries" 0, .tag "Set" ]

def setCode : LibraryCode := fun name call => do
  match name with
  | "get [Symbol.species]" => return call.this
  | _ => newCollection it call .setPrototype (.set .empty) addingItems

def setGroup : LibraryGroup := ⟨.set, [.keyedGetter .species]⟩

/-! ### References that keep nothing -/

/-- Whether a value can be let go of: an object, or a symbol that is not found by a description. -/
def isReleasable (value : Value) : M Bool := do
  match value with
  | .object _ => return true
  | .symbol id => return !(← get).registered.any (·.2 == id)
  | _ => return false

def weakMapPrototype (name : String) (call : LibraryCall) : M Value := do
  let .object ref := call.this | throwClass "WeakMap"
  let .weakMap entries := (← getObject ref).kind | throwClass "WeakMap"
  match name with
  | "get" => return (entries.get? call.first).getD .undefined
  | "has" => return .bool (entries.contains call.first)
  | "delete" => deleteEntry ref entries call.first
  | _ =>
    unless ← isReleasable call.first do throwType "invalid value used as WeakMap key"
    modifyEntries ref (·.insert call.first call.second)
    return call.this

def weakSetPrototype (name : String) (call : LibraryCall) : M Value := do
  let .object ref := call.this | throwClass "WeakSet"
  let .weakSet members := (← getObject ref).kind | throwClass "WeakSet"
  match name with
  | "has" => return .bool (members.contains call.first)
  | "delete" => deleteEntry ref members call.first
  | _ =>
    unless ← isReleasable call.first do throwType "invalid value used as WeakSet key"
    modifyEntries ref (addMember · call.first)
    return call.this

def weakRefPrototype (call : LibraryCall) : M Value := do
  let .object ref := call.this | throwClass "WeakRef"
  let .weakRef target := (← getObject ref).kind | throwClass "WeakRef"
  return target

/-- Registries of what is to be done when objects are let go of, which never happens. -/
def finalizationPrototype (name : String) (call : LibraryCall) : M Value := do
  let .object ref := call.this | throwClass "FinalizationRegistry"
  let .finalization tokens := (← getObject ref).kind | throwClass "FinalizationRegistry"
  match name with
  | "register" =>
    unless ← isReleasable call.first do throwType "invalid target"
    if call.first.same call.second then throwType "held value cannot be the target"
    let token := call.argument 2
    if ← isReleasable token then
      modifyObject ref fun object => { object with kind := .finalization (addMember tokens token) }
    else unless token.isUndefined do throwType "invalid unregister token"
    return .undefined
  | _ =>
    unless ← isReleasable call.first do throwType "invalid unregister token"
    let isThere := tokens.contains call.first
    modifyObject ref fun object => { object with kind := .finalization (tokens.erase call.first) }
    return .bool isThere

def weakPrototype : LibraryCode := fun name call =>
  match name with
  | "deref" => weakRefPrototype call
  | name => finalizationPrototype name call

def newWeakRef (call : LibraryCall) : M Value := do
  unless call.isConstruction do throwType "must be called with new"
  unless ← isReleasable call.first do throwType "invalid target"
  let prototype ← prototypeFor it call.newTarget .weakRefPrototype
  return .object (← allocate (.ofKind (some prototype) (.weakRef call.first)))

def newFinalization (call : LibraryCall) : M Value := do
  unless call.isConstruction do throwType "must be called with new"
  unless ← isCallable call.first do throwType "argument must be a function"
  let prototype ← prototypeFor it call.newTarget .finalizationPrototype
  return .object (← allocate (.ofKind (some prototype) (.finalization .empty)))

def weak : LibraryCode := fun name call =>
  match name with
  | "WeakSet" => newCollection it call .weakSetPrototype (.weakSet .empty) addingItems
  | "WeakMap" => newCollection it call .weakMapPrototype (.weakMap .empty) addingPairs
  | "WeakRef" => newWeakRef it call
  | _ => newFinalization it call

def weakMapGroup : LibraryGroup :=
  ⟨.weakMapPrototype, [.method "set" 2, .method "get" 1, .method "has" 1, .method "delete" 1,
    .tag "WeakMap"]⟩

def weakSetGroup : LibraryGroup :=
  ⟨.weakSetPrototype, [.method "add" 1, .method "has" 1, .method "delete" 1, .tag "WeakSet"]⟩

def weakRefGroup : LibraryGroup := ⟨.weakPrototype, [.method "deref" 0, .tag "WeakRef"]⟩

def finalizationGroup : LibraryGroup :=
  ⟨.weakPrototype, [.method "register" 2, .method "unregister" 1, .tag "FinalizationRegistry"]⟩

end Fingerprint.Script.Standard
