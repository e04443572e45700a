import Fingerprint.Script.Library.Regexes
import Fingerprint.Script.Generator

/-!
The functions of iterators: those over what is there already, generators, and iterators that are
made from others.
-/

namespace Fingerprint.Script.Standard

variable (it : Interpreter)

/-! ### Cursors -/

/-- The methods of cursors are called what their sorts are called. -/
def cursorPrototype : LibraryCode := fun name call => do
  let .object ref := call.this | throwClass name
  let .cursor cursor := (← getObject ref).kind | throwClass name
  unless cursor.sort.label = name do throwClass name
  let step ← match cursor with
    | .matches .. => advanceMatches it ref
    | cursor => advance it ref cursor
  match step with
  | .item value => iterationResult value false
  | .done value => iterationResult value true

/-! ### Generators -/

def resumptionOf (name : String) : Resumption :=
  match name with
  | "return" => .returning
  | "throw" => .throwing
  | _ => .next

def generatorPrototype : LibraryCode := fun name call => do
  let .object ref := call.this | throwType "not a generator"
  let .generator generator := (← getObject ref).kind | throwType "not a generator"
  resumeGenerator it ref generator (resumptionOf name) call.first

def newPromise : M Value :=
  return .object (← allocate (.ofKind (some Intrinsic.promisePrototype.ref) .promise))

/-- Runs the body of an asynchronous generator up to where it waits for the first time. -/
def startAsyncGenerator (ref : Ref) (code : CodeRef) (env : Env) : M Unit := do
  let setState (generator : Generator) : M Unit :=
    modifyObject ref fun object => { object with kind := .asyncGenerator generator }
  setState .running
  try
    let _ ← runBody it env (← codeOf code).body
    setState .finished
  catch
    | .thrown _ => setState .finished
    | .suspended => pure ()
    | abrupt => throw abrupt

/-- Asynchronous generators answer with promises; one that waits goes on waiting. -/
def asyncGeneratorPrototype : LibraryCode := fun name call => do
  match call.this with
  | .object ref =>
    match (← getObject ref).kind, name with
    | .asyncGenerator (.waiting code env), "next" => startAsyncGenerator it ref code env
    | .asyncGenerator (.waiting ..), _ =>
      modifyObject ref fun object => { object with kind := .asyncGenerator .finished }
    | _, _ => pure ()
  | _ => pure ()
  newPromise

def generatorPrototypeGroup : LibraryGroup :=
  ⟨.generatorPrototype, [.method "next" 1, .method "return" 1, .method "throw" 1, .tag "Generator"]⟩

def asyncGeneratorPrototypeGroup : LibraryGroup :=
  ⟨.asyncGeneratorPrototype,
    [.method "next" 1, .method "return" 1, .method "throw" 1, .tag "AsyncGenerator"]⟩

/-! ### Any iterators -/

/-- What the methods of iterators go through: an object with a method for the next item. -/
structure Source where
  iterator : Value
  next : Value

def sourceOf (iterator : Value) : M Source := do
  let ref ← requireObject iterator
  return ⟨iterator, ← getProperty it ref "next"⟩

def Source.item? (source : Source) : M (Option Value) := do
  itemOfResult it (← it.call source.next source.iterator #[])

/-- Does something with an item; the source is closed if that fails. -/
def Source.closing {α : Type} (source : Source) (work : M α) : M α :=
  closingOnError it (.custom source.iterator source.next) work

/-- Goes through the items with the results of a function until a step yields a result, after which
the source is closed. -/
def Source.each {β : Type} (source : Source) (function : Value)
    (step : Value → Value → M (Option β)) (atEnd : β) : M β :=
  repeatLoop 0 fun count => do
    match ← source.item? it with
    | none => return .inr atEnd
    | some item =>
      let found ← source.closing it do
        step item (← it.call function .undefined #[item, .ofNat count])
      match found with
      | none => return .inl (count + 1)
      | some result =>
        closeIterator it source.iterator
        return .inr result

def iteratorVisiting (name : String) (call : LibraryCall) : M Value := do
  let _ ← requireObject call.this
  let function ← requireCallable call.first
  let source ← sourceOf it call.this
  match name with
  | "every" =>
    source.each it function (fun _ result =>
      return if result.isTruthy then none else some (.bool false))
      (.bool true)
  | "some" =>
    source.each it function (fun _ result =>
      return if result.isTruthy then some (.bool true) else none)
      (.bool false)
  | "find" =>
    source.each it function (fun item result => return if result.isTruthy then some item else none)
      .undefined
  | _ => source.each it function (fun _ _ => return none) .undefined

def iteratorReduce (call : LibraryCall) : M Value := do
  let _ ← requireObject call.this
  let function ← requireCallable call.first
  let source ← sourceOf it call.this
  let (first, start) ← if 1 < call.arguments.size then pure (call.second, 0)
    else
      match ← source.item? it with
      | some item => pure (item, 1)
      | none => throwType "empty iterator"
  repeatLoop (first, start) fun (found, count) => do
    match ← source.item? it with
    | none => return .inr found
    | some item =>
      let found ← source.closing it (it.call function .undefined #[found, item, .ofNat count])
      return .inl (found, count + 1)

def iteratorToArray (call : LibraryCall) : M Value := do
  let source ← sourceOf it call.this
  let items ← repeatLoop #[] fun found => do
    match ← source.item? it with
    | none => return .inr found
    | some item => return .inl (found.push item)
  return .object (← newArray items)

/-! ### Iterators made from others -/

/-- The largest count that a number of items to take or leave out denotes. -/
def countArgument (value : Value) : M Float := do
  let count ← toNumber it value
  if count.isNaN then throwRange "must be positive"
  let count := Number.integral count
  if count < 0 then throwRange "must be positive"
  return count

def newHelper (name : String) (call : LibraryCall) : M Value := do
  let _ ← requireObject call.this
  let task ← match name with
    | "drop" => do pure (HelperTask.drop (← countArgument it call.first))
    | "take" => do pure (HelperTask.take (← countArgument it call.first))
    | "filter" => do pure (HelperTask.filter (← requireCallable call.first))
    | "flatMap" => do pure (HelperTask.flatMap (← requireCallable call.first) none)
    | _ => do pure (HelperTask.map (← requireCallable call.first))
  let source ← sourceOf it call.this
  return .object (← allocate (.ofKind (some Intrinsic.helperPrototype.ref)
    (.helper ⟨task, source.iterator, source.next, 0, false, false⟩)))

def helperOf (this : Value) : M (Ref × Helper) := do
  match this with
  | .object ref =>
    match (← getObject ref).kind with
    | .helper helper => return (ref, helper)
    | _ => throwClass "Iterator Helper"
  | _ => throwClass "Iterator Helper"

def modifyHelper (ref : Ref) (change : Helper → Helper) : M Unit :=
  modifyObject ref fun object =>
    match object.kind with
    | .helper helper => { object with kind := .helper (change helper) }
    | _ => object

/-- Leaves out items at the front. -/
def dropItems (ref : Ref) (source : Source) (left : Float) : M (Option Value) :=
  repeatLoop left fun left => do
    match ← source.item? it with
    | none => return .inr none
    | some item =>
      if 0 < left then
        modifyHelper ref fun helper => { helper with task := .drop (left - 1) }
        return .inl (left - 1)
      else return .inr (some item)

/-- The next item that passes a test. -/
def filterItem (ref : Ref) (source : Source) (function : Value) (count : Nat) : M (Option Value) :=
  repeatLoop count fun count => do
    match ← source.item? it with
    | none => return .inr none
    | some item =>
      modifyHelper ref fun helper => { helper with count := count + 1 }
      let passes ← source.closing it (it.call function .undefined #[item, .ofNat count])
      if passes.isTruthy then return .inr (some item) else return .inl (count + 1)

/-- The items of what a function yields, as an iterator. -/
def innerSource (value : Value) : M Source := do
  let ref ← requireObject value
  let method ← getProperty it ref WellKnownSymbol.iterator.key
  if method.isNullish then sourceOf it value
  else sourceOf it (← it.call (← requireCallable method) value #[])

/-- The next item of those that a function yields for each item. -/
def flatItem (ref : Ref) (source : Source) (function : Value) (count : Nat)
    (inner : Option (Value × Value)) : M (Option Value) :=
  let inner := inner.map fun (iterator, next) => Source.mk iterator next
  repeatLoop (count, inner) fun (count, inner) => do
    match inner with
    | some inner =>
      match ← source.closing it (inner.item? it) with
      | some item => return .inr (some item)
      | none =>
        modifyHelper ref fun helper => { helper with task := .flatMap function none }
        return .inl (count, none)
    | none =>
      match ← source.item? it with
      | none => return .inr none
      | some item =>
        let inner ← source.closing it do
          innerSource it (← it.call function .undefined #[item, .ofNat count])
        modifyHelper ref fun helper =>
          { helper with
            task := .flatMap function (some (inner.iterator, inner.next)), count := count + 1 }
        return .inl (count + 1, some inner)

/-- Takes the next item of an iterator that was made from another one. -/
def helperItem (ref : Ref) (helper : Helper) : M (Option Value) := do
  let source : Source := ⟨helper.iterator, helper.next⟩
  match helper.task with
  | .drop left => dropItems it ref source left
  | .filter function => filterItem it ref source function helper.count
  | .flatMap function inner => flatItem it ref source function helper.count inner
  | .take left =>
    if 0 < left then
      modifyHelper ref fun helper => { helper with task := .take (left - 1) }
      source.item? it
    else
      closeIterator it source.iterator
      return none
  | .map function =>
    match ← source.item? it with
    | none => return none
    | some item =>
      modifyHelper ref fun helper => { helper with count := helper.count + 1 }
      return some (← source.closing it (it.call function .undefined #[item, .ofNat helper.count]))

def helperNext (call : LibraryCall) : M Value := do
  let (ref, helper) ← helperOf call.this
  if helper.isRunning then throwType "Generator is running"
  if helper.isDone then return ← iterationResult .undefined true
  modifyHelper ref fun helper => { helper with isRunning := true }
  let found ← try helperItem it ref helper
    catch abrupt =>
      modifyHelper ref fun helper => { helper with isRunning := false }
      throw abrupt
  modifyHelper ref fun helper => { helper with isRunning := false, isDone := found.isNone }
  match found with
  | some item => iterationResult item false
  | none => iterationResult .undefined true

/-- Tells an iterator by its own method that no more items are needed, and takes what it answers. -/
def returnItem (iterator : Value) : M (Option Value) := do
  itemOfResult it (← it.call (← getOf it iterator "return") iterator #[])

/-- What an iterator that was made from another one answers when no more items are needed. -/
def helperLast (ref : Ref) (helper : Helper) : M (Option Value) := do
  match helper.task with
  | .take left =>
    if 0 < left then returnItem it helper.iterator
    else
      closeIterator it helper.iterator
      return none
  | .flatMap function (some (inner, _)) =>
    match ← returnItem it inner with
    | some item => return some item
    | none =>
      modifyHelper ref fun helper => { helper with task := .flatMap function none }
      returnItem it helper.iterator
  | _ => returnItem it helper.iterator

def helperReturn (call : LibraryCall) : M Value := do
  let (ref, helper) ← helperOf call.this
  if helper.isRunning then throwType "Generator is running"
  if helper.isDone then return ← iterationResult .undefined true
  modifyHelper ref fun helper => { helper with isRunning := true }
  let stop : M Unit :=
    modifyHelper ref fun helper => { helper with isRunning := false, isDone := true }
  let found ← try helperLast it ref helper
    catch abrupt =>
      stop
      throw abrupt
  stop
  match found with
  | some item => iterationResult item false
  | none => iterationResult .undefined true

def helperPrototype : LibraryCode := fun name call =>
  match name with
  | "next" => helperNext it call
  | _ => helperReturn it call

def helperPrototypeGroup : LibraryGroup :=
  ⟨.helperPrototype, [.method "next" 0, .method "return" 0, .tag "Iterator Helper"]⟩

/-! ### Iterators around others -/

def wrapperPrototype : LibraryCode := fun name call => do
  let .object ref := call.this | throwClass "Iterator Wrap"
  let .wrapper iterator next := (← getObject ref).kind | throwClass "Iterator Wrap"
  match name with
  | "next" => it.call next iterator #[]
  | _ =>
    match ← methodOf? it iterator "return" with
    | some method => it.call method iterator #[]
    | none => iterationResult .undefined true

def wrapperPrototypeGroup : LibraryGroup :=
  ⟨.wrapperPrototype, [.method "next" 0, .method "return" 0]⟩

/-- An iterator over a value that has the methods of iterators. -/
def iteratorFrom (value : Value) : M Value := do
  match value with
  | .object _ | .text _ => pure ()
  | _ => throwType "Iterator.from called on non-object"
  let method ← getOf it value WellKnownSymbol.iterator.key
  let iterator ← if method.isNullish then pure value
    else do
      let made ← it.call (← requireCallable method) value #[]
      let _ ← requireObject made
      pure made
  let next ← getOf it iterator "next"
  let inheritsMethods ← match iterator with
    | .object ref => inherits it inheritanceLimit ref Intrinsic.iteratorPrototype.ref
    | _ => pure false
  if inheritsMethods then return iterator
  else
    return .object (← allocate (.ofKind (some Intrinsic.wrapperPrototype.ref)
      (.wrapper iterator next)))

def newIterator (call : LibraryCall) : M Value := do
  unless call.isConstruction do throwType "constructor requires 'new'"
  if call.newTarget.same Intrinsic.iterator.value then throwType "abstract class not constructable"
  return .object
    (← allocate (.ofKind (some (← prototypeFor it call.newTarget .iteratorPrototype)) .ordinary))

def iterator : LibraryCode := fun name call => do
  match name with
  | "from" => iteratorFrom it call.first
  | _ => newIterator it call

def iteratorGroup : LibraryGroup := ⟨.iterator, [.method "from" 1]⟩

/-- The word that the texts of iterators show can be set, but not that of the common prototype. -/
def setIteratorTag (call : LibraryCall) : M Value := do
  let ref ← requireObject call.this
  if ref = Intrinsic.iteratorPrototype.ref then throwType "Cannot assign to read only property"
  let key := WellKnownSymbol.toStringTag.key
  match ← ownProperty it ref key with
  | some _ => setOf it true call.this key call.first
  | none => createOrThrow it ref key call.first
  return .undefined

def iteratorPrototype : LibraryCode := fun name call => do
  match name with
  | "[Symbol.iterator]" => return call.this
  | "get [Symbol.toStringTag]" => return .ofText "Iterator"
  | "set [Symbol.toStringTag]" => setIteratorTag it call
  | "every" | "some" | "find" | "forEach" => iteratorVisiting it name call
  | "reduce" => iteratorReduce it call
  | "toArray" => iteratorToArray it call
  | name => newHelper it name call

def iteratorPrototypeGroup : LibraryGroup where
  library := .iteratorPrototype
  members :=
    [ .method "drop" 1, .method "filter" 1, .method "flatMap" 1, .method "map" 1, .method "take" 1,
      .method "every" 1, .method "find" 1, .method "forEach" 1, .method "some" 1,
      .method "reduce" 1, .method "toArray" 0, .keyed .iterator 0, .keyedAccessor .toStringTag ]

def asyncIteratorPrototype : LibraryCode := fun _ call => return call.this

def asyncIteratorPrototypeGroup : LibraryGroup :=
  ⟨.asyncIteratorPrototype, [.keyed .asyncIterator 0]⟩

end Fingerprint.Script.Standard
