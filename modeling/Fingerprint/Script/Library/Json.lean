import Fingerprint.Script.JsonText
import Fingerprint.Script.Library.Objects

/-!
The functions of `JSON`.

A text is first read into a tree, which is then made into objects.
-/

namespace Fingerprint.Script.Standard

mutual

/-- Makes a tree into values. -/
def buildJson : JsonTree → M Value
  | .null => return .null
  | .bool value => return .bool value
  | .number value => return .number value
  | .text units => return .text units
  | .array items => do
    return .object (← newArray (← buildItems items).toArray)
  | .object keys items => do
    let ref ← newObject
    let values ← buildItems items
    (keys.zip values).forM fun (key, value) => createProperty ref (.ofUnits key) value
    return .object ref

def buildItems : List JsonTree → M (List Value)
  | [] => return []
  | item :: rest => do
    let value ← buildJson item
    return value :: (← buildItems rest)

end

variable (it : Interpreter)

/-- Lets a function change the values from the inside out; `depth` bounds values within each
other. -/
def revive (function : Value) : Nat → Ref → Key → M Value
  | 0, _, _ => throwOverflow
  | depth + 1, holder, key => do
    let value ← getProperty it holder key
    match value with
    | .object ref =>
      let keys ← if ← isArray value then do
          pure ((List.range (← lengthOf it ref)).map Key.index)
        else enumerableKeys it ref
      keys.forM fun key => do
        match ← revive function depth ref key with
        | .undefined => let _ ← deleteProperty it ref key
        | changed => createProperty ref key changed
    | _ => pure ()
    it.call function (.object holder) #[key.toValue, ← getProperty it holder key]

def parseJson (call : LibraryCall) : M Value := do
  let units ← toUnits it call.first
  spend (units.length / 4)
  match JsonTree.ofUnits units with
  | .error message => throwNew .grammar message
  | .ok tree =>
    let value ← buildJson tree
    if ← isCallable call.second then
      let holder ← newObject
      createProperty holder (.name .empty) value
      revive it call.second JsonTree.depthLimit holder (.name .empty)
    else return value

/-! ### Writing -/

def hexDigit (value : Nat) : UInt16 := (if value < 10 then 48 + value else 87 + value).toUInt16

def escapedUnit (unit : UInt16) : List UInt16 :=
  let code := unit.toNat
  [0x5C, 0x75, hexDigit (code / 4096), hexDigit (code / 256 % 16), hexDigit (code / 16 % 16),
    hexDigit (code % 16)]

/-- The units of a text in quotes. -/
def quoteUnits : List UInt16 → Array UInt16 → Array UInt16
  | [], done => done
  | unit :: rest, done =>
    match unit with
    | 0x22 => quoteUnits rest ((done.push 0x5C).push 0x22)
    | 0x5C => quoteUnits rest ((done.push 0x5C).push 0x5C)
    | 8 => quoteUnits rest ((done.push 0x5C).push 0x62)
    | 12 => quoteUnits rest ((done.push 0x5C).push 0x66)
    | 10 => quoteUnits rest ((done.push 0x5C).push 0x6E)
    | 13 => quoteUnits rest ((done.push 0x5C).push 0x72)
    | 9 => quoteUnits rest ((done.push 0x5C).push 0x74)
    | unit =>
      if unit < 0x20 || Units.isLow unit then quoteUnits rest (done ++ (escapedUnit unit).toArray)
      else if Units.isHigh unit then
        match rest with
        | low :: behind =>
          if Units.isLow low then quoteUnits behind ((done.push unit).push low)
          else quoteUnits (low :: behind) (done ++ (escapedUnit unit).toArray)
        | [] => done ++ (escapedUnit unit).toArray
      else quoteUnits rest (done.push unit)
termination_by rest => rest.length

def quoteJson (units : Units) : Units := ⟨(quoteUnits units.data.toList #[0x22]).push 0x22⟩

/-- How values are written. -/
structure JsonStyle where
  /-- A function that changes the values first. -/
  replacer : Option Value
  /-- The members that are written; all if there is no list. -/
  allowed : Option (List Key)
  /-- What lines are indented by. -/
  gap : Units

/-- A value as it is to be written. -/
def prepareJson (style : JsonStyle) (holder : Ref) (key : Key) (value : Value) : M Value := do
  let value ← match value with
    | .object _ | .bigInt _ => do
      let method ← getOf it value "toJSON"
      if ← isCallable method then it.call method value #[key.toValue] else pure value
    | value => pure value
  let value ← match style.replacer with
    | some function => it.call function (.object holder) #[key.toValue, value]
    | none => pure value
  match value with
  | .object ref =>
    match (← getObject ref).kind with
    | .wrapped (.number _) => return .number (← toNumber it value)
    | .wrapped (.text _) => return .text (← toUnits it value)
    | .wrapped (.bool inner) => return .bool inner
    | .wrapped (.bigInt inner) => return .bigInt inner
    | _ => return value
  | value => return value

/-- Parts between brackets, each on a line of its own if lines are indented. -/
def bracket (opening closing : String) (style : JsonStyle) (indent : Units) (parts : List Units) :
    Units :=
  if parts.isEmpty then Units.ofString (opening ++ closing)
  else if style.gap.isEmpty then
    Units.ofString opening ++ Units.join "," parts ++ Units.ofString closing
  else
    let inner : Units := "\n" ++ indent ++ style.gap
    Units.ofString opening ++ inner ++ Units.join ("," ++ inner) parts ++ "\n" ++ indent ++
      Units.ofString closing

/-- The text of a value, unless it has none; `depth` bounds values within each other, and `outer`
holds the objects around the value. -/
def writeJson (style : JsonStyle) : Nat → List Ref → Units → Ref → Key → Value → M (Option Units)
  | 0, _, _, _, _, _ => throwOverflow
  | depth + 1, outer, indent, holder, key, value => do
    match ← prepareJson it style holder key value with
    | .null => return some "null"
    | .bool value => return some (if value then "true" else "false")
    | .number value => return some (if Number.isFinite value then Number.text value else "null")
    | .text units => return some (quoteJson units)
    | .bigInt _ => throwType "BigInt are forbidden in JSON.stringify"
    | .undefined | .symbol _ => return none
    | .object ref =>
      if (← getObject ref).isCallable then return none
      if outer.contains ref then throwType "circular reference"
      let write (key : Key) : M (Option Units) := do
        let value ← getProperty it ref key
        writeJson style depth (ref :: outer) (indent ++ style.gap) ref key value
      if ← isArray (.object ref) then
        let places := (List.range (← lengthOf it ref)).map Key.index
        let parts ← places.mapM fun place => return (← write place).getD "null"
        return some (bracket "[" "]" style indent parts)
      else
        let keys ← match style.allowed with
          | some keys => pure keys
          | none => enumerableKeys it ref
        let parts ← keys.filterMapM fun key => do
          match ← write key with
          | some text =>
            let colon : Units := if style.gap.isEmpty then ":" else ": "
            return some (quoteJson (← describeKey key) ++ colon ++ text)
          | none => return none
        return some (bracket "\x7b" "\x7d" style indent parts)

/-- The members that a list names. -/
def allowedKeys (list : Ref) : M (List Key) := do
  let items ← listItems it list
  let keys ← items.toList.filterMapM fun item => do
    match item with
    | .text units => return some (Key.ofUnits units)
    | .number _ => return some (← toKey it item)
    | .object ref =>
      match (← getObject ref).kind with
      | .wrapped (.text _) | .wrapped (.number _) => return some (.ofUnits (← toUnits it item))
      | _ => return none
    | _ => return none
  return keys.eraseDups

/-- What lines are indented by. -/
def gapOf (value : Value) : M Units := do
  let value ← match value with
    | .object ref =>
      match (← getObject ref).kind with
      | .wrapped (.number _) => pure (Value.number (← toNumber it value))
      | .wrapped (.text _) => pure (Value.text (← toUnits it value))
      | _ => pure Value.undefined
    | value => pure value
  match value with
  | .number count => return (Units.ofString " ").times (Number.place (max count 0) 10)
  | .text units => return units.slice 0 10
  | _ => return .empty

def stringifyJson (call : LibraryCall) : M Value := do
  let replacer ← if ← isCallable call.second then pure (some call.second) else pure none
  let allowed ← match call.second with
    | .object ref =>
      if ← isArray call.second then do pure (some (← allowedKeys it ref)) else pure none
    | _ => pure none
  let gap ← gapOf it (call.argument 2)
  let holder ← newObject
  createProperty holder (.name .empty) call.first
  match ← writeJson it ⟨replacer, allowed, gap⟩ JsonTree.depthLimit [] .empty holder (.name .empty)
      call.first with
  | some text =>
    reserve text.length
    return .text text
  | none => return .undefined

def json : LibraryCode := fun name call =>
  match name with
  | "parse" => parseJson it call
  | _ => stringifyJson it call

def jsonGroup : LibraryGroup := ⟨.json, [.method "parse" 2, .method "stringify" 3, .tag "JSON"]⟩

end Fingerprint.Script.Standard
