import Fingerprint.Script.Change

/-!
Iterators: what loops, spreads and patterns take their items from.
-/

namespace Fingerprint.Script

/-- What an iterator hands out. -/
inductive Step where
  | item (value : Value)
  | done (value : Value)
deriving Inhabited

variable (it : Interpreter)

/-! ### Statements in a row -/

/-- Runs statements until one of them does not end normally. -/
def runStatements (env : Env) : List Stmt → M Flow
  | [] => return .normal
  | statement :: rest => do
    match ← it.statement env statement with
    | .normal => runStatements env rest
    | flow => return flow

/-- Runs the statements of a function. -/
def runBody (env : Env) (body : List Stmt) : M Value := do
  match ← runStatements it env body with
  | .returned value => return value
  | _ => return .undefined

def codeOf (code : CodeRef) : M Code := return (← get).library.codes[code]?.getD default

/-! ### Cursors -/

def setCursor (ref : Ref) (cursor : Cursor) : M Unit :=
  modifyObject ref fun object => { object with kind := .cursor cursor }

def newPair (first second : Value) : M Value := return .object (← newArray #[first, second])

def entryPart (part : EntryPart) (key value : Value) : M Value := do
  match part with
  | .key => return key
  | .value => return value
  | .both => newPair key value

def Cursor.sort : Cursor → CursorSort
  | .items .. => .items
  | .map .. => .map
  | .set .. => .set
  | .text .. => .text
  | .matches .. => .matches
  | .finished sort => sort

def CursorSort.prototype : CursorSort → Intrinsic
  | .items => .arrayIteratorPrototype
  | .map => .mapIteratorPrototype
  | .set => .setIteratorPrototype
  | .text => .textIteratorPrototype
  | .matches => .matchIteratorPrototype

/-- What iterators of a sort are called. -/
def CursorSort.label : CursorSort → String
  | .items => "Array Iterator"
  | .map => "Map Iterator"
  | .set => "Set Iterator"
  | .text => "String Iterator"
  | .matches => "RegExp String Iterator"

def CursorSort.all : List CursorSort := [.items, .map, .set, .text, .matches]

def finish (ref : Ref) (sort : CursorSort) : M Step := do
  setCursor ref (.finished sort)
  return .done .undefined

/-- The number of items that an iterator over a value goes through. -/
def itemCount (ref : Ref) : M Nat := do
  match (← getObject ref).kind with
  | .view view =>
    let buffer ← bufferOf view.buffer
    if buffer.isDetached || view.isOutside buffer.bytes.size then
      throwType "ArrayBuffer is detached or resized"
    return view.count buffer.bytes.size
  | _ => lengthOf it ref

/-- Takes the next unit of a text, or both units of a character outside the first plane. -/
def advanceText (ref : Ref) (units : Units) (next : Nat) : M Step := do
  match units.get? next, units.get? (next + 1) with
  | some high, some low =>
    let width := if Units.isHigh high && Units.isLow low then 2 else 1
    setCursor ref (.text units (next + width))
    return .item (.text (units.slice next (next + width)))
  | some unit, none =>
    setCursor ref (.text units (next + 1))
    return .item (.text ⟨#[unit]⟩)
  | none, _ => finish ref .text

/-- Takes the next value of an iterator, unless it looks for matches, which takes more. -/
def advance (ref : Ref) (cursor : Cursor) : M Step := do
  match cursor with
  | .finished _ => return .done .undefined
  | .items target next part =>
    if next < (← itemCount it target) then
      setCursor ref (.items target (next + 1) part)
      return .item (← entryPart part (.ofNat next) (← if part = .key then pure .undefined
        else getProperty it target (.index next)))
    else finish ref .items
  | .map target next part =>
    let .map entries := (← getObject target).kind | finish ref .map
    match entries.next? next with
    | some ((key, value), next) =>
      setCursor ref (.map target next part)
      return .item (← entryPart part key value)
    | none => finish ref .map
  | .set target next part =>
    let .set entries := (← getObject target).kind | finish ref .set
    match entries.next? next with
    | some ((value, _), next) =>
      setCursor ref (.set target next part)
      return .item (← entryPart part value value)
    | none => finish ref .set
  | .text units next => advanceText ref units next
  | .matches .. => return .done .undefined

def newCursor (cursor : Cursor) : M Value :=
  return .object (← allocate (.ofKind (some cursor.sort.prototype.ref) (.cursor cursor)))

/-- The result that an iterator hands out. -/
def iterationResult (value : Value) (isDone : Bool) : M Value := do
  let ref ← newObject
  createProperty ref "value" value
  createProperty ref "done" (.bool isDone)
  return .object ref

/-! ### Items of any value -/

/-- Whether a value is the function by which cursors of a sort advance. -/
def isAdvance (sort : CursorSort) (value : Value) : M Bool := do
  match value with
  | .object ref =>
    match (← getObject ref).kind with
    | .native native => return native.library = .cursorPrototype && native.name == sort.label
    | _ => return false
  | _ => return false

/-- The items that an iterator hands out. -/
def itemsOf (iterator : Value) : M Items := do
  match iterator with
  | .object ref =>
    let next ← getProperty it ref "next"
    match (← getObject ref).kind with
    | .cursor (.matches ..) => return .custom iterator next
    | .cursor cursor =>
      return if ← isAdvance cursor.sort next then .cursor ref else .custom iterator next
    | _ => return .custom iterator next
  | _ => throwType "not an object"

/-- The iterator of a value that an iterating method yields. -/
def itemsOfMethod (value method : Value) : M Items := do
  unless ← isCallable method do throwType "value is not iterable"
  itemsOf it (← it.call method value #[])

/-- Whether iterators over arrays advance as they did at the start. -/
def arraysAdvance : M Bool := do
  match (← getObject Intrinsic.arrayIteratorPrototype.ref).own? "next" with
  | some ⟨.data next _, _, _⟩ => isAdvance .items next
  | _ => return false

def openItems (value : Value) : M Items := do
  let method ← getOf it value WellKnownSymbol.iterator.key
  match value, method with
  | .object ref, .object function =>
    match (← getObject ref).kind with
    | .array .. =>
      if function = Intrinsic.arrayValues.ref && (← arraysAdvance) then return .array ref
      else itemsOfMethod it value method
    | _ => itemsOfMethod it value method
  | _, _ => itemsOfMethod it value method

/-- The item of a result that an iterator has handed out. -/
def itemOfResult (result : Value) : M (Option Value) := do
  match result with
  | .object ref =>
    if (← getProperty it ref "done").isTruthy then return none
    else return some (← getProperty it ref "value")
  | _ => throwType "iterator must return an object"

/-- Takes the next item; `place` counts those before it. -/
def nextItem (items : Items) (place : Nat) : M (Option Value) := do
  match items with
  | .array ref =>
    if place < (← lengthOf it ref) then return some (← getProperty it ref (.index place))
    else return none
  | .cursor ref =>
    let .cursor cursor := (← getObject ref).kind | return none
    match ← advance it ref cursor with
    | .item value => return some value
    | .done _ => return none
  | .custom iterator next => itemOfResult it (← it.call next iterator #[])

/-- Tells an iterator that no more items are needed. -/
def closeIterator (iterator : Value) : M Unit := do
  match ← methodOf? it iterator "return" with
  | some method =>
    match ← it.call method iterator #[] with
    | .object _ => return
    | _ => throwType "not an object"
  | none => return

def closeItems (items : Items) : M Unit := do
  match items with
  | .array _ => return
  | .cursor ref => closeIterator it (.object ref)
  | .custom iterator _ => closeIterator it iterator

/-- Closes an iterator if what is done with an item fails. -/
def closingOnError {α : Type} (items : Items) (work : M α) : M α := do
  try work
  catch abrupt =>
    match abrupt with
    | .thrown _ =>
      try closeItems it items
      catch
        | .thrown _ => pure ()
        | other => throw other
    | _ => pure ()
    throw abrupt

/-- Does something with each item until it yields a result. -/
def eachItem {σ β : Type} (value : Value) (start : σ) (step : σ → Value → M (σ ⊕ β))
    (atEnd : σ → M β) : M β := do
  let items ← openItems it value
  repeatLoop (start, 0) fun (state, place) => do
    match ← nextItem it items place with
    | none => return .inr (← atEnd state)
    | some item =>
      match ← closingOnError it items (step state item) with
      | .inl state => return .inl (state, place + 1)
      | .inr result =>
        closeItems it items
        return .inr result

/-- All items of a value. -/
def listOf (value : Value) : M (Array Value) :=
  eachItem it value #[] (fun found item => return .inl (found.push item)) pure

end Fingerprint.Script
