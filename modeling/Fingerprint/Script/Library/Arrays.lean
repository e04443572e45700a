import Fingerprint.Script.Library.Objects
import Fingerprint.Script.Sorting

/-!
The functions of arrays. They work on whatever has a length and items.
-/

namespace Fingerprint.Script.Standard

variable (it : Interpreter)

/-! ### Items -/

/-- The item at a place. -/
def itemAt (ref : Ref) (place : Nat) : M Value := getProperty it ref (.index place)

/-- The item at a place, unless it is missing. -/
def itemAt? (ref : Ref) (place : Nat) : M (Option Value) := do
  match ← lookup ref (.index place) with
  | .property property => return some (← readProperty it (.object ref) property)
  | .absent => return none
  | .handled _ =>
    if ← hasProperty it ref (.index place) then return some (← itemAt it ref place) else return none

def setItem (ref : Ref) (place : Nat) (value : Value) : M Unit :=
  setOf it true (.object ref) (.index place) value

def setLengthOf (ref : Ref) (length : Nat) : M Unit :=
  setOf it true (.object ref) "length" (.ofNat length)

def deleteItem (ref : Ref) (place : Nat) : M Unit := do
  unless ← deleteProperty it ref (.index place) do throwType "could not delete property"

def arrayOf (items : Array Value) : M Value := return .object (← newArray items)

def arrayOfSlots (items : Array (Option Value)) : M Value := do
  return .object (← allocate (.ofKind (some Intrinsic.arrayPrototype.ref)
    (.array items items.size true)))

/-- Whether an array has all its items and nothing else, and takes more. -/
def isOnePiece (object : Object) : Bool :=
  match object.kind with
  | .array items length true =>
    items.size == length && object.properties.entries.isEmpty && object.extensible
  | _ => false

/-- The items of an array that is in one piece and misses none of them. -/
def wholeItems? (object : Object) : Option (Array (Option Value)) :=
  match object.kind with
  | .array items length true =>
    if items.size == length && object.properties.entries.isEmpty && object.extensible &&
        items.all Option.isSome then some items
    else none
  | _ => none

/-- Gives an array other items. -/
def putItems (ref : Ref) (items : Array (Option Value)) : M Unit :=
  modifyObject ref fun object => { object with kind := .array items items.size true }

/-- The items of a part of an array, some of which may be missing. -/
def slots (ref : Ref) (first last : Nat) : M (Array (Option Value)) := do
  reserve ((last - first) * itemBytes)
  match wholeItems? (← getObject ref) with
  | some items =>
    if last ≤ items.size then
      spend ((last - first) / 16)
      return items.extract first last
    else slotBySlot first last
  | none => slotBySlot first last
where
  slotBySlot (first last : Nat) : M (Array (Option Value)) :=
    repeatLoop ((#[] : Array (Option Value)), first) fun (found, place) => do
      if place < last then return .inl (found.push (← itemAt? it ref place), place + 1)
      else return .inr found

/-- Puts items into an object from a place on; missing ones are removed. -/
def putSlots (ref : Ref) (items : Array (Option Value)) (first : Nat) : M Unit :=
  repeatLoop 0 fun offset => do
    match items[offset]? with
    | some (some value) =>
      setItem it ref (first + offset) value
      return .inl (offset + 1)
    | some none =>
      deleteItem it ref (first + offset)
      return .inl (offset + 1)
    | none => return .inr ()

/-- Goes over the items that are there, from the first one on or from the last one down. -/
def eachSlot {σ β : Type} (ref : Ref) (length : Nat) (backwards : Bool) (start : σ)
    (step : σ → Value → Nat → M (σ ⊕ β)) (atEnd : σ → M β) : M β :=
  repeatLoop (start, 0) fun (state, count) => do
    if count < length then
      let place := if backwards then length - 1 - count else count
      match ← itemAt? it ref place with
      | some value =>
        match ← step state value place with
        | .inl state => return .inl (state, count + 1)
        | .inr result => return .inr result
      | none => return .inl (state, count + 1)
    else return .inr (← atEnd state)

/-- Goes over all items; missing ones are undefined. -/
def eachPlace {σ β : Type} (ref : Ref) (length : Nat) (backwards : Bool) (start : σ)
    (step : σ → Value → Nat → M (σ ⊕ β)) (atEnd : σ → M β) : M β :=
  repeatLoop (start, 0) fun (state, count) => do
    if count < length then
      let place := if backwards then length - 1 - count else count
      match ← step state (← itemAt it ref place) place with
      | .inl state => return .inl (state, count + 1)
      | .inr result => return .inr result
    else return .inr (← atEnd state)

/-! ### Texts -/

/-- The text of an item in a list of items. -/
def itemText (value : Value) : M Units :=
  if value.isNullish then return .empty else toUnits it value

def joinItems (ref : Ref) (separator : Units) : M Value := do
  let length ← lengthOf it ref
  let joined ← eachPlace it ref length false Units.empty (fun found value place => do
      let found := if place = 0 then found else found ++ separator
      let found := found ++ (← itemText it value)
      reserve found.length
      return .inl found) pure
  return .text joined

def join (call : LibraryCall) : M Value := do
  let ref ← toObject call.this
  let separator ←
    if call.first.isUndefined then pure (Units.ofString ",") else toUnits it call.first
  joinItems it ref separator

def arrayText (call : LibraryCall) : M Value := do
  let ref ← toObject call.this
  let method ← getProperty it ref "join"
  if ← isCallable method then it.call method (.object ref) #[]
  else describeObject it (.object ref)

/-! ### Arrays of the same sort -/

/-- An array for results on an array: `none` stands for an ordinary one, which is not made before it
is filled. -/
def likeArray (ref : Ref) (length : Nat) : M (Option Ref) := do
  unless ← isArray (.object ref) do return none
  let constructor ← match ← getProperty it ref "constructor" with
    | .object constructor =>
      if constructor = Intrinsic.array.ref then pure .undefined
      else
        match ← getProperty it constructor WellKnownSymbol.species.key with
        | .null => pure .undefined
        | species => pure species
    | other => pure other
  match constructor with
  | .undefined => return none
  | constructor =>
    match ← it.construct constructor #[.ofNat length] constructor with
    | .object made => return some made
    | _ => throwType "not an object"

/-- Fills an array for results. -/
def fillLike (target : Option Ref) (items : Array (Option Value)) (setsLength : Bool) :
    M Value := do
  match target with
  | none => arrayOfSlots items
  | some ref =>
    items.toList.zipIdx.forM fun (item, place) => do
      match item with
      | some item => createOrThrow it ref (.index place) item
      | none => return
    if setsLength then setLengthOf it ref items.size
    return .object ref

/-! ### Adding and removing items -/

/-- Adds items to the end of an array that is in one piece. -/
def appendItems (object : Object) (values : Array Value) : Object :=
  match object with
  | ⟨prototype, .array items length growable, properties, extensible⟩ =>
    let items := values.foldl (fun items value => items.push (some value)) items
    ⟨prototype, .array items (length + values.size) growable, properties, extensible⟩
  | other => other

def push (ref : Ref) (arguments : Array Value) : M Value := do
  let length ← lengthOf it ref
  if isOnePiece (← getObject ref) then
    reserve (length * valueBytes (arguments.back?.getD .undefined))
    modifyObject ref fun object => appendItems object arguments
    return .ofNat (length + arguments.size)
  let after ← arguments.foldlM (fun place value => do
    setItem it ref place value
    return place + 1) length
  setLengthOf it ref after
  return .ofNat after

def pop (ref : Ref) : M Value := do
  let length ← lengthOf it ref
  if length = 0 then
    setLengthOf it ref 0
    return .undefined
  let value ← itemAt it ref (length - 1)
  deleteItem it ref (length - 1)
  setLengthOf it ref (length - 1)
  return value

def shift (ref : Ref) : M Value := do
  let length ← lengthOf it ref
  if length = 0 then
    setLengthOf it ref 0
    return .undefined
  let value ← itemAt it ref 0
  match wholeItems? (← getObject ref) with
  | some items =>
    spend (length / 16)
    putItems ref (items.extract 1 length)
  | none =>
    putSlots it ref (← slots it ref 1 length) 0
    deleteItem it ref (length - 1)
    setLengthOf it ref (length - 1)
  return value

def unshift (ref : Ref) (arguments : Array Value) : M Value := do
  let length ← lengthOf it ref
  match wholeItems? (← getObject ref) with
  | some items =>
    spend (length / 16)
    reserve ((length + arguments.size) * itemBytes)
    putItems ref (arguments.map some ++ items)
  | none =>
    unless arguments.isEmpty do
      putSlots it ref (arguments.map some ++ (← slots it ref 0 length)) 0
    setLengthOf it ref (length + arguments.size)
  return .ofNat (length + arguments.size)

/-- The part of an array that a start and a count denote. -/
def spliceBounds (call : LibraryCall) (length : Nat) : M (Nat × Nat) := do
  let start ← placeArgument it call.first length 0
  if call.arguments.size = 0 then return (0, 0)
  else if call.arguments.size = 1 then return (start, length - start)
  else
    let count ← toIntegral it call.second
    let most := Float.ofNat (length - start)
    let count := if count < 0 then 0 else if most < count then most else count
    return (start, count.toUInt64.toNat)

def splice (ref : Ref) (call : LibraryCall) : M Value := do
  let length ← lengthOf it ref
  let (start, count) ← spliceBounds it call length
  let target ← likeArray it ref count
  let removed ← slots it ref start (start + count)
  let added := (call.arguments.extract 2 call.arguments.size).map some
  let after := length - count + added.size
  match wholeItems? (← getObject ref) with
  | some items =>
    spend (length / 16)
    reserve (after * itemBytes)
    putItems ref (items.extract 0 start ++ added ++ items.extract (start + count) length)
  | none =>
    let rest ← slots it ref (start + count) length
    putSlots it ref (added ++ rest) start
    (List.range (length - after)).forM fun offset => deleteItem it ref (length - 1 - offset)
    setLengthOf it ref after
  fillLike it target removed true

def reverse (ref : Ref) : M Value := do
  let length ← lengthOf it ref
  match wholeItems? (← getObject ref) with
  | some items =>
    spend (length / 16)
    putItems ref items.reverse
  | none => putSlots it ref (← slots it ref 0 length).reverse 0
  return .object ref

def fill (ref : Ref) (call : LibraryCall) : M Value := do
  let length ← lengthOf it ref
  let first ← placeArgument it call.second length 0
  let last ← placeArgument it (call.argument 2) length length
  repeatLoop first fun place => do
    if place < last then
      setItem it ref place call.first
      return .inl (place + 1)
    else return .inr ()
  return .object ref

def copyWithin (ref : Ref) (call : LibraryCall) : M Value := do
  let length ← lengthOf it ref
  let target ← placeArgument it call.first length 0
  let first ← placeArgument it call.second length 0
  let last ← placeArgument it (call.argument 2) length length
  let count := min (last - first) (length - target)
  putSlots it ref (← slots it ref first (first + count)) target
  return .object ref

/-! ### Copies -/

def slice (ref : Ref) (call : LibraryCall) : M Value := do
  let length ← lengthOf it ref
  let first ← placeArgument it call.first length 0
  let last ← placeArgument it call.second length length
  let target ← likeArray it ref (last - first)
  fillLike it target (← slots it ref first (max first last)) true

/-- Whether a value counts as its items when it is joined to an array. -/
def isSpreadable (value : Value) : M (Option Ref) := do
  match value with
  | .object ref =>
    match ← getProperty it ref WellKnownSymbol.isConcatSpreadable.key with
    | .undefined => return if ← isArray value then some ref else none
    | flag => return if flag.isTruthy then some ref else none
  | _ => return none

def concat (call : LibraryCall) : M Value := do
  let this ← toObject call.this
  let target ← likeArray it this 0
  let items ← call.arguments.foldlM (fun found value => do
    match ← isSpreadable it value with
    | some ref => return found ++ (← slots it ref 0 (← lengthOf it ref))
    | none => return found.push (some value))
    (← match ← isSpreadable it (.object this) with
      | some ref => do slots it ref 0 (← lengthOf it ref)
      | none => pure #[some (.object this)])
  fillLike it target items true

/-- The items of arrays within arrays, down to a depth; `limit` bounds the arrays within each other
whatever the depth. -/
def flatten : Nat → Nat → Ref → Array Value → M (Array Value)
  | 0, _, _, _ => throwOverflow
  | limit + 1, depth, ref, found => do
    let length ← lengthOf it ref
    eachSlot it ref length false found (fun found value _ => do
      match depth, value with
      | depth + 1, .object inner =>
        if ← isArray value then return .inl (← flatten limit depth inner found)
        else return .inl (found.push value)
      | _, _ => return .inl (found.push value)) pure

/-- The bound on arrays within each other. -/
def flattenLimit : Nat := 1000

def flat (ref : Ref) (call : LibraryCall) : M Value := do
  let depth ← if call.first.isUndefined then pure 1
    else do pure (Number.place (max 0 (← toNumber it call.first)) flattenLimit)
  let target ← likeArray it ref 0
  fillLike it target ((← flatten it flattenLimit depth ref #[]).map some) false

def flatMap (ref : Ref) (call : LibraryCall) : M Value := do
  let function ← requireCallable call.first
  let length ← lengthOf it ref
  let target ← likeArray it ref 0
  let found ← eachSlot it ref length false (#[] : Array Value) (fun found value place => do
    let result ← it.call function call.second #[value, .ofNat place, .object ref]
    match result with
    | .object inner =>
      if ← isArray result then return .inl (← flatten it 1 0 inner found)
      else return .inl (found.push result)
    | _ => return .inl (found.push result)) pure
  fillLike it target (found.map some) false

/-- A copy of an array with one item changed. -/
def withItem (ref : Ref) (call : LibraryCall) : M Value := do
  let items ← listItems it ref
  let place ← toIntegral it call.first
  let place := if place < 0 then place + Float.ofNat items.size else place
  if place < 0 || Float.ofNat items.size ≤ place then throwRange "out of bound"
  arrayOf (items.setIfInBounds place.toUInt64.toNat call.second)

/-! ### Searching -/

def indexOf (ref : Ref) (call : LibraryCall) : M Value := do
  let length ← lengthOf it ref
  let start ← placeArgument it call.second length 0
  eachSlot it ref length false () (fun _ value place => do
    if start ≤ place && value.same call.first then return .inr (Value.ofNat place)
    else return .inl ()) (fun _ => return .number (-1))

def lastIndexOf (ref : Ref) (call : LibraryCall) : M Value := do
  let length ← lengthOf it ref
  let last ← if call.arguments.size < 2 then pure length
    else do
      let place ← toIntegral it call.second
      let place := if place < 0 then place + Float.ofNat length else place
      pure (if place < 0 then 0 else min length (place.toUInt64.toNat + 1))
  eachSlot it ref last true () (fun _ value place => do
    if value.same call.first then return .inr (Value.ofNat place) else return .inl ())
    (fun _ => return .number (-1))

def includes (ref : Ref) (call : LibraryCall) : M Value := do
  let length ← lengthOf it ref
  let start ← placeArgument it call.second length 0
  eachPlace it ref length false () (fun _ value place => do
    if start ≤ place && value.sameOrNaN call.first then return .inr (Value.bool true)
    else return .inl ()) (fun _ => return .bool false)

/-- The first item that a function accepts, with its place. -/
def findItem (ref : Ref) (call : LibraryCall) (backwards : Bool) : M (Option (Value × Nat)) := do
  let length ← lengthOf it ref
  let function ← requireCallable call.first
  eachPlace it ref length backwards () (fun _ value place => do
    if (← it.call function call.second #[value, .ofNat place, .object ref]).isTruthy then
      return .inr (some (value, place))
    else return .inl ()) (fun _ => return none)

def itemFrom (ref : Ref) (call : LibraryCall) : M Value := do
  let length ← lengthOf it ref
  let place ← toIntegral it call.first
  let place := if place < 0 then place + Float.ofNat length else place
  if place < 0 || Float.ofNat length ≤ place then return .undefined
  else itemAt it ref place.toUInt64.toNat

/-! ### Functions on each item -/

def everySome (ref : Ref) (call : LibraryCall) (wanted : Bool) : M Value := do
  let length ← lengthOf it ref
  let function ← requireCallable call.first
  eachSlot it ref length false () (fun _ value place => do
    let result ← it.call function call.second #[value, .ofNat place, .object ref]
    if result.isTruthy == wanted then return .inr (Value.bool wanted) else return .inl ())
    (fun _ => return .bool (!wanted))

def forEach (ref : Ref) (call : LibraryCall) : M Value := do
  let length ← lengthOf it ref
  let function ← requireCallable call.first
  eachSlot it ref length false () (fun _ value place => do
    let _ ← it.call function call.second #[value, .ofNat place, .object ref]
    return .inl ()) (fun _ => return Value.undefined)

def mapItems (ref : Ref) (call : LibraryCall) : M Value := do
  let length ← lengthOf it ref
  let function ← requireCallable call.first
  reserve (length * itemBytes)
  let target ← likeArray it ref length
  let found ← repeatLoop ((#[] : Array (Option Value)), 0) fun (found, place) => do
    if place < length then
      match ← itemAt? it ref place with
      | some value =>
        let result ← it.call function call.second #[value, .ofNat place, .object ref]
        return .inl (found.push (some result), place + 1)
      | none => return .inl (found.push none, place + 1)
    else return .inr found
  fillLike it target found false

def filterItems (ref : Ref) (call : LibraryCall) : M Value := do
  let length ← lengthOf it ref
  let function ← requireCallable call.first
  let target ← likeArray it ref 0
  let found ← eachSlot it ref length false (#[] : Array Value) (fun found value place => do
    let result ← it.call function call.second #[value, .ofNat place, .object ref]
    return .inl (if result.isTruthy then found.push value else found)) pure
  fillLike it target (found.map some) false

def reduceItems (ref : Ref) (call : LibraryCall) (backwards : Bool) : M Value := do
  let length ← lengthOf it ref
  let function ← requireCallable call.first
  let start : Option Value := if 1 < call.arguments.size then some call.second else none
  let result ← eachSlot it ref length backwards start (fun found value place => do
    match found with
    | some before =>
      return .inl (some (← it.call function .undefined #[before, value, .ofNat place, .object ref]))
    | none => return .inl (some value)) pure
  match result with
  | some value => return value
  | none => throwType "empty array"

/-! ### Sorting -/

/-- An item that is sorted, with its place before and its text, if the texts are compared. -/
structure Sorted where
  value : Value
  place : Nat
  text : Units
deriving Inhabited

def orderOfPlaces (left right : Sorted) : Int :=
  if left.place < right.place then -1 else if right.place < left.place then 1 else 0

/-- Compares items by a function, or by their texts; what is the same keeps its order. -/
def compareSorted (function : Value) (left right : Sorted) : M Int := do
  if function.isUndefined then
    if left.text.less right.text then return -1
    else if right.text.less left.text then return 1
    else return orderOfPlaces left right
  else if left.value.identical right.value then return orderOfPlaces left right
  else
    let order ← toNumber it (← it.call function .undefined #[left.value, right.value])
    if order < 0 then return -1 else if 0 < order then return 1 else return orderOfPlaces left right

/-- The items that are there in their order, and the number of those that are undefined, which go
behind them. -/
def sortedItems (items : Array (Option Value)) (function : Value) : M (Array Sorted × Nat) := do
  let present := items.zipIdx.filterMap fun (item, place) => item.map fun value => (value, place)
  let values := present.filter fun (value, _) => !value.isUndefined
  let sorted ← values.mapM fun (value, place) => do
    let text ← if function.isUndefined && 1 < values.size then toUnits it value else pure .empty
    return (⟨value, place, text⟩ : Sorted)
  return (← sortBy (compareSorted it function) sorted, present.size - values.size)

def requireComparison (function : Value) : M Unit := do
  unless function.isUndefined do
    let _ ← requireCallable function

def sort (ref : Ref) (function : Value) : M Value := do
  let length ← lengthOf it ref
  let items ← slots it ref 0 length
  let (sorted, undefinedCount) ← sortedItems it items function
  -- items that stay where they were are not written again
  sorted.toList.zipIdx.forM fun (item, place) => do
    unless item.place = place do setItem it ref place item.value
  (List.range undefinedCount).forM fun offset => setItem it ref (sorted.size + offset) .undefined
  let count := sorted.size + undefinedCount
  (List.range (length - count)).forM fun offset => deleteItem it ref (count + offset)
  return .object ref

/-! ### All functions -/

def arrayChanging (name : String) (ref : Ref) (call : LibraryCall) : M Value :=
  match name with
  | "push" => push it ref call.arguments
  | "pop" => pop it ref
  | "shift" => shift it ref
  | "unshift" => unshift it ref call.arguments
  | "splice" => splice it ref call
  | "reverse" => reverse it ref
  | "fill" => fill it ref call
  | _ => copyWithin it ref call

def arrayCopying (name : String) (ref : Ref) (call : LibraryCall) : M Value := do
  match name with
  | "slice" => slice it ref call
  | "flat" => flat it ref call
  | "flatMap" => flatMap it ref call
  | "with" => withItem it ref call
  | "toReversed" => arrayOf (← listItems it ref).reverse
  | "toSorted" =>
    let (sorted, undefinedCount) ← sortedItems it ((← listItems it ref).map some) call.first
    arrayOf (sorted.map (·.value) ++ Array.replicate undefinedCount .undefined)
  | _ =>
    let items ← listItems it ref
    let (start, count) ← spliceBounds it call items.size
    let added := call.arguments.extract 2 call.arguments.size
    arrayOf (items.extract 0 start ++ added ++ items.extract (start + count) items.size)

def arraySearching (name : String) (ref : Ref) (call : LibraryCall) : M Value := do
  match name with
  | "indexOf" => indexOf it ref call
  | "lastIndexOf" => lastIndexOf it ref call
  | "includes" => includes it ref call
  | "at" => itemFrom it ref call
  | "find" => return ((← findItem it ref call false).map (·.1)).getD .undefined
  | "findLast" => return ((← findItem it ref call true).map (·.1)).getD .undefined
  | name =>
    let found ← findItem it ref call (name == "findLastIndex")
    return (found.map fun (_, place) => Value.ofNat place).getD (.number (-1))

def arrayVisiting (name : String) (ref : Ref) (call : LibraryCall) : M Value :=
  match name with
  | "forEach" => forEach it ref call
  | "map" => mapItems it ref call
  | "filter" => filterItems it ref call
  | "every" => everySome it ref call false
  | "some" => everySome it ref call true
  | "reduce" => reduceItems it ref call false
  | _ => reduceItems it ref call true

/-- The texts of items as they suit the place of the reader. -/
def localText (call : LibraryCall) : M Value := do
  let ref ← toObject call.this
  let length ← lengthOf it ref
  let joined ← eachPlace it ref length false Units.empty (fun found value place => do
      let found := if place = 0 then found else found ++ ","
      if value.isNullish then return .inl found
      else return .inl (found ++ (← toUnits it (← invoke it value "toLocaleString" #[])))) pure
  return .text joined

def arrayPrototype : LibraryCode := fun name call => do
  match name with
  | "sort" =>
    requireComparison call.first
    sort it (← toObject call.this) call.first
  | "toSorted" =>
    requireComparison call.first
    arrayCopying it name (← toObject call.this) call
  | "toLocaleString" => localText it call
  | "push" | "pop" | "shift" | "unshift" | "splice" | "reverse" | "fill" | "copyWithin" =>
    arrayChanging it name (← toObject call.this) call
  | "slice" | "flat" | "flatMap" | "with" | "toReversed" | "toSpliced" =>
    arrayCopying it name (← toObject call.this) call
  | "indexOf" | "lastIndexOf" | "includes" | "at" | "find" | "findLast" | "findIndex"
  | "findLastIndex" => arraySearching it name (← toObject call.this) call
  | "forEach" | "map" | "filter" | "every" | "some" | "reduce" | "reduceRight" =>
    arrayVisiting it name (← toObject call.this) call
  | "concat" => concat it call
  | "join" => join it call
  | "keys" => newCursor (.items (← toObject call.this) 0 .key)
  | "values" => newCursor (.items (← toObject call.this) 0 .value)
  | "entries" => newCursor (.items (← toObject call.this) 0 .both)
  | _ => arrayText it call

def arrayPrototypeGroup : LibraryGroup := (LibraryGroup.ofList .arrayPrototype
  [("at", 1), ("with", 2), ("concat", 1), ("every", 1), ("some", 1), ("forEach", 1), ("map", 1),
    ("filter", 1), ("reduce", 1), ("reduceRight", 1), ("fill", 1), ("find", 1), ("findIndex", 1),
    ("findLast", 1), ("findLastIndex", 1), ("indexOf", 1), ("lastIndexOf", 1), ("includes", 1),
    ("join", 1), ("toString", 0), ("toLocaleString", 0), ("pop", 0), ("push", 1), ("shift", 0),
    ("unshift", 1), ("reverse", 0), ("toReversed", 0), ("sort", 1), ("toSorted", 1), ("slice", 2),
    ("splice", 2), ("toSpliced", 2), ("copyWithin", 2), ("flatMap", 1), ("flat", 0)]).append
    [.data "values" Intrinsic.arrayValues.value, .keyedAlias .iterator "values",
      .method "keys" 0, .method "entries" 0,
      .keyedData .unscopables Intrinsic.unscopables.value]

/-! ### Making arrays -/

/-- What `this` makes for the items of an array; `none` stands for an ordinary array. -/
def arrayMadeBy (this : Value) (arguments : Array Value) : M (Option Ref) := do
  match this with
  | .object ref => if ref = Intrinsic.array.ref then return none
  | _ => pure ()
  if ← isConstructor this then
    match ← it.construct this arguments this with
    | .object made => return some made
    | _ => throwType "not an object"
  else return none

def arrayFrom (call : LibraryCall) : M Value := do
  let function := call.second
  unless function.isUndefined do
    let _ ← requireCallable function
  let change (value : Value) (place : Nat) : M Value :=
    if function.isUndefined then return value
    else it.call function (call.argument 2) #[value, .ofNat place]
  match ← methodOf? it call.first WellKnownSymbol.iterator.key with
  | some _ =>
    let target ← arrayMadeBy it call.this #[]
    let found ← eachItem it call.first (#[] : Array Value) (fun found item => do
      return .inl (found.push (← change item found.size))) pure
    fillLike it target (found.map some) true
  | none =>
    let source ← toObject call.first
    let length ← lengthOf it source
    let target ← arrayMadeBy it call.this #[.ofNat length]
    if target.isNone && 4294967295 < length then throwRange "invalid array length"
    reserve (length * itemBytes)
    let found ← repeatLoop ((#[] : Array Value), 0) fun (found, place) => do
      if place < length then
        return .inl (found.push (← change (← itemAt it source place) place), place + 1)
      else return .inr found
    fillLike it target (found.map some) true

def arrayOfArguments (call : LibraryCall) : M Value := do
  let target ← arrayMadeBy it call.this #[.ofNat call.arguments.size]
  fillLike it target (call.arguments.map some) true

def newArrayOf (call : LibraryCall) : M Value := do
  let prototype ← prototypeFor it call.newTarget .arrayPrototype
  let make (items : Array (Option Value)) (length : Nat) : M Value := do
    return .object (← allocate (.ofKind (some prototype) (.array items length true)))
  match call.arguments.toList with
  | [.number length] =>
    match lengthOf? (.number length) with
    | some length => make #[] length
    | none => throwRange "invalid array length"
  | arguments => make (arguments.map some).toArray arguments.length

def array : LibraryCode := fun name call => do
  match name with
  | "isArray" => return .bool (← isArray call.first)
  | "of" => arrayOfArguments it call
  | "get [Symbol.species]" => return call.this
  | "from" => arrayFrom it call
  | _ => newArrayOf it call

def arrayGroup : LibraryGroup :=
  ⟨.array, [.method "isArray" 1, .method "from" 1, .method "of" 0, .keyedGetter .species]⟩

/-- The names of array methods that are passed over in the objects of `with`. -/
def unscopableNames : List String :=
  ["copyWithin", "entries", "fill", "find", "findIndex", "findLast", "findLastIndex", "flat",
    "flatMap", "includes", "keys", "toReversed", "toSorted", "toSpliced", "values"]

end Fingerprint.Script.Standard
