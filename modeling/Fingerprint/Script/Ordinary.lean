import Fingerprint.Script.Object

/-!
The properties of one object by itself: finding, writing, defining, removing and listing them.

Arrays keep items at their front apart from their other properties, and texts show their units as
properties.
-/

namespace Fingerprint.Script

/-! ### Finding -/

/-- The property of an object itself, whatever it inherits. -/
def Object.own? (object : Object) (key : Key) : Option Property :=
  match object.kind, key with
  | .array items length growable, key =>
    match key with
    | .index place =>
      match items[place]? with
      | some (some value) => some (.plain value)
      | _ => object.properties.get? key
    | .name units =>
      if units == Units.ofString "length" then
        some ⟨.data (.ofNat length) growable, false, false⟩
      else object.properties.get? key
    | _ => object.properties.get? key
  | .wrapped (.text units), .index place =>
    match units.get? place with
    | some unit => some ⟨.data (.text ⟨#[unit]⟩) false, true, false⟩
    | none => object.properties.get? key
  | .wrapped (.text units), .name name =>
    if name == Units.ofString "length" then some (.fixed (.ofNat units.length))
    else object.properties.get? key
  | _, key => object.properties.get? key

/-! ### Writing -/

/-- The outcome of writing a property. -/
inductive Written where
  | done
  | readOnly
  | noSetter
  | notExtensible
  | notObject
  | refused
deriving DecidableEq, Repr

/-- The number of missing items that an array takes in to stay in one piece. -/
def gapLimit : Nat := 1024

def hasIndexKeys (table : PropertyTable) : Bool :=
  table.entries.any fun entry => match entry.1 with
    | .index _ => true
    | _ => false

/-- Puts an item into an array. -/
def putItem (object : Object) (place : Nat) (value : Value) : Object :=
  match object with
  | ⟨prototype, .array items length growable, properties, extensible⟩ =>
    let longer := max length (place + 1)
    if place < items.size then
      ⟨prototype, .array (items.setIfInBounds place (some value)) longer growable, properties,
        extensible⟩
    else if (properties.find? (.index place)).isNone &&
        (place = items.size || (place < items.size + gapLimit && !hasIndexKeys properties)) then
      let filled := (List.range (place - items.size)).foldl (fun items _ => items.push none) items
      ⟨prototype, .array (filled.push (some value)) longer growable, properties, extensible⟩
    else
      ⟨prototype, .array items longer growable, properties.set (.index place) (.plain value),
        extensible⟩
  | other => other

/-- Removes the properties of items from a place on. -/
def dropItems (properties : PropertyTable) (length : Nat) : PropertyTable :=
  if properties.entries.isEmpty then properties
  else
    let gone := properties.keys.filter fun key => match key with
      | .index place => length ≤ place
      | _ => false
    gone.foldl PropertyTable.erase properties

/-- Shortens or lengthens an array. -/
def setLength (object : Object) (length : Nat) : Object :=
  match object with
  | ⟨prototype, .array items _ growable, properties, extensible⟩ =>
    let items := if length < items.size then items.shrink length else items
    ⟨prototype, .array items length growable, dropItems properties length, extensible⟩
  | other => other

/-- Puts a plain property to an object itself: a new one, or a new value of the one that is
there. -/
def Object.write (object : Object) (key : Key) (value : Value) : Object :=
  match object.kind, key with
  | .array .., .index place => putItem object place value
  | _, key =>
    match object.properties.get? key with
    | some property =>
      let property := { property with content := .data value true }
      { object with properties := object.properties.set key property }
    | none => { object with properties := object.properties.set key (.plain value) }

/-- The length that a value denotes. -/
def lengthOf? : Value → Option Nat
  | .number value =>
    if 0 ≤ value && value ≤ 4294967295 && value == value.floor then some value.toUInt64.toNat
    else none
  | _ => none

/-- Whether an object can take a new property. -/
def takesNew (object : Object) (key : Key) : Bool :=
  object.extensible &&
    match object.kind, key with
    | .array _ length growable, .index place => growable || place < length
    | _, _ => true

/-! ### Definitions -/

/-- What a definition says about a property. -/
structure Descriptor where
  value : Option Value
  writable : Option Bool
  getter : Option Value
  setter : Option Value
  enumerable : Option Bool
  configurable : Option Bool
deriving Inhabited

namespace Descriptor

def isAccessor (descriptor : Descriptor) : Bool :=
  descriptor.getter.isSome || descriptor.setter.isSome

def isData (descriptor : Descriptor) : Bool :=
  descriptor.value.isSome || descriptor.writable.isSome

/-- The property that a definition makes of nothing. -/
def fresh (descriptor : Descriptor) : Property where
  content :=
    if descriptor.isAccessor then
      .accessor (descriptor.getter.getD .undefined) (descriptor.setter.getD .undefined)
    else .data (descriptor.value.getD .undefined) (descriptor.writable.getD false)
  enumerable := descriptor.enumerable.getD false
  configurable := descriptor.configurable.getD false

/-- The property that a definition makes of another one. -/
def applyTo (descriptor : Descriptor) (property : Property) : Property where
  content :=
    match property.content with
    | .data value writable =>
      if descriptor.isAccessor then
        .accessor (descriptor.getter.getD .undefined) (descriptor.setter.getD .undefined)
      else .data (descriptor.value.getD value) (descriptor.writable.getD writable)
    | .accessor getter setter =>
      if descriptor.isData then
        .data (descriptor.value.getD .undefined) (descriptor.writable.getD false)
      else .accessor (descriptor.getter.getD getter) (descriptor.setter.getD setter)
  enumerable := descriptor.enumerable.getD property.enumerable
  configurable := descriptor.configurable.getD property.configurable

/-- Whether a definition changes nothing that is fixed. -/
def allowedBy (descriptor : Descriptor) (property : Property) : Bool :=
  property.configurable ||
    (descriptor.configurable != some true &&
      descriptor.enumerable.all (· == property.enumerable) &&
      match property.content with
      | .data _ true => !descriptor.isAccessor
      | .data value false =>
        !descriptor.isAccessor && descriptor.writable != some true &&
          descriptor.value.all value.identical
      | .accessor getter setter =>
        !descriptor.isData && descriptor.getter.all getter.same &&
          descriptor.setter.all setter.same)

def ofProperty (property : Property) : Descriptor :=
  match property.content with
  | .data value writable =>
    ⟨some value, some writable, none, none, some property.enumerable, some property.configurable⟩
  | .accessor getter setter =>
    ⟨none, none, some getter, some setter, some property.enumerable, some property.configurable⟩

end Descriptor

/-- Keeps the items of an array as properties, so that each can have attributes of its own. -/
def Object.spreadItems (object : Object) : Object :=
  match object.kind with
  | .array items length growable =>
    let add (table : PropertyTable) (item : Option Value × Nat) : PropertyTable :=
      match item.1 with
      | some value => table.set (.index item.2) (.plain value)
      | none => table
    { object with
      kind := .array #[] length growable
      properties := items.zipIdx.foldl add object.properties }
  | _ => object

def Property.isPlain (property : Property) : Bool :=
  property.enumerable && property.configurable &&
    match property.content with
    | .data _ writable => writable
    | .accessor .. => false

/-- Gives an object a property of its own, whatever it had. -/
def Object.define (object : Object) (key : Key) (property : Property) : Object :=
  match object.kind, key with
  | .array _ length growable, .index place =>
    match property.content, property.isPlain with
    | .data value _, true => putItem object place value
    | _, _ =>
      let object := object.spreadItems
      let object := { object with kind := .array #[] (max length (place + 1)) growable }
      { object with properties := object.properties.set key property }
  | .array items length _, .name name =>
    if name == Units.ofString "length" then
      match property.content with
      | .data value writable =>
        let length := (lengthOf? value).getD length
        setLength { object with kind := .array items length writable } length
      | _ => object
    else { object with properties := object.properties.set key property }
  | _, _ => { object with properties := object.properties.set key property }

/-- An object without one of its properties. -/
def Object.remove (object : Object) (key : Key) : Object :=
  match object, key with
  | ⟨prototype, .array items length growable, properties, extensible⟩, .index place =>
    if place < items.size then
      ⟨prototype, .array (items.setIfInBounds place none) length growable, properties, extensible⟩
    else ⟨prototype, .array items length growable, properties.erase key, extensible⟩
  | object, key => { object with properties := object.properties.erase key }

/-! ### Listing -/

def indexKeys (keys : List Key) : List Nat :=
  (keys.filterMap fun key => match key with
    | .index place => some place
    | _ => none).mergeSort

/-- The keys of an object itself: the numbers in their order, then the texts, then the symbols,
these in the order in which they were added. -/
def Object.keys (object : Object) : List Key :=
  let keys := object.properties.keys
  let (front, extra) : List Nat × List Key := match object.kind with
    | .array items .. =>
      (items.toList.zipIdx.filterMap fun (item, place) => if item.isSome then some place else none,
        [("length" : Key)])
    | .wrapped (.text units) =>
      -- the common object of all texts has its length among its properties
      (List.range units.length,
        if (object.properties.find? "length").isSome then [] else [("length" : Key)])
    | _ => ([], [])
  (front ++ indexKeys keys).map Key.index ++ extra ++
    keys.filter (fun key => match key with
      | .name _ => true
      | _ => false) ++
    keys.filter Key.isSymbol

end Fingerprint.Script
