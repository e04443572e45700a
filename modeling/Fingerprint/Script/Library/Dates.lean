import Fingerprint.Script.DateText
import Fingerprint.Script.Library.Basic

/-!
The functions of dates.
-/

namespace Fingerprint.Script.Standard

variable (it : Interpreter)

/-- The instant of a number, unless it lies too far away. -/
def clipInstant (value : Float) : Float :=
  if Number.isFinite value && value.abs ≤ DateParts.limit then Number.truncate value + 0.0
  else Number.nan

def instantFloat (instant : Int) : Float := clipInstant (Float.ofInt instant)

/-- The instant at which scripts run: the clock of the sandbox stands for the time. -/
def currentInstant : M Float :=
  return Float.ofNat (1700000000000 + (← get).clock / stepsPerMillisecond)

/-- Numbers as parts of a date, unless one of them is out of all bounds. -/
def partsOf? (numbers : List Float) : Option (List Int) :=
  if numbers.all (·.abs < 1e16) then some (numbers.map Number.toInt) else none

/-- The numbers of values, unless one of them is not finite; those behind it are not asked for. -/
def finiteNumbers : List Value → M (Option (List Float))
  | [] => return some []
  | value :: rest => do
    let number ← toNumber it value
    if Number.isFinite number then return (← finiteNumbers rest).map (number :: ·)
    else return none

/-- Years before 100 are those of the twentieth century. -/
def wholeYear (year : Int) : Int := if 0 ≤ year && year ≤ 99 then 1900 + year else year

def instantOfParts (values : List Value) : M Float := do
  match (← finiteNumbers it (values.take 7)).bind partsOf? with
  | some parts =>
    let part (place : Nat) (standard : Int) : Int := parts.getD place standard
    return instantFloat (DateParts.mk (wholeYear (part 0 1970)) (part 1 0) (part 2 1) (part 3 0)
      (part 4 0) (part 5 0) (part 6 0)).toInstant
  | none => return Number.nan

def instantOfText (text : Units) : Float :=
  match DateText.read? text with
  | some (instant, zone) => instantFloat instant - Float.ofInt zone
  | none => Number.nan

def instantOfValue (value : Value) : M Float := do
  match value with
  | .object ref =>
    match (← getObject ref).kind with
    | .date time => return time
    | _ => pure ()
  | _ => pure ()
  match ← toPrimitive it .unspecified value with
  | .text units => return instantOfText units
  | other => return clipInstant (← toNumber it other)

def describeInstant (time : Float) (describe : Int → DateParts → String) : Value :=
  if time.isNaN then .ofText "Invalid Date"
  else
    let instant := Number.toInt time
    .ofText (describe instant (DateParts.ofInstant instant))

def newDate (call : LibraryCall) : M Value := do
  unless call.isConstruction do return describeInstant (← currentInstant) DateParts.fullText
  let time ← match call.arguments.toList with
    | [] => currentInstant
    | [value] => instantOfValue it value
    | values => instantOfParts it values
  let prototype ← prototypeFor it call.newTarget .datePrototype
  return .object (← allocate (.ofKind (some prototype) (.date time)))

def date : LibraryCode := fun name call => do
  match name with
  | "now" => return .number (← currentInstant)
  | "parse" => return .number (instantOfText (← toUnits it call.first))
  | "UTC" =>
    if call.arguments.isEmpty then return .number Number.nan
    return .number (← instantOfParts it call.arguments.toList)
  | _ => newDate it call

def dateGroup : LibraryGroup := .ofList .date [("now", 0), ("parse", 1), ("UTC", 7)]

/-! ### Methods -/

/-- The part of a date that a method yields. -/
def datePart? (name : String) : Option (Int → DateParts → Int) :=
  match name with
  | "getFullYear" | "getUTCFullYear" => some fun _ parts => parts.year
  | "getYear" => some fun _ parts => parts.year - 1900
  | "getMonth" | "getUTCMonth" => some fun _ parts => parts.month
  | "getDate" | "getUTCDate" => some fun _ parts => parts.day
  | "getDay" | "getUTCDay" => some fun instant _ => DateParts.weekday instant
  | "getHours" | "getUTCHours" => some fun _ parts => parts.hour
  | "getMinutes" | "getUTCMinutes" => some fun _ parts => parts.minute
  | "getSeconds" | "getUTCSeconds" => some fun _ parts => parts.second
  | "getMilliseconds" | "getUTCMilliseconds" => some fun _ parts => parts.millisecond
  | "getTimezoneOffset" => some fun _ _ => 0
  | _ => none

/-- A date with parts replaced, which the arguments of a method give one after the other. -/
def dateChange? (name : String) (parts : DateParts) (values : List Int) : Option DateParts :=
  let part (place : Nat) (standard : Int) : Int := values.getD place standard
  match name with
  | "setFullYear" | "setUTCFullYear" =>
    some { parts with year := part 0 0, month := part 1 parts.month, day := part 2 parts.day }
  | "setMonth" | "setUTCMonth" => some { parts with month := part 0 0, day := part 1 parts.day }
  | "setDate" | "setUTCDate" => some { parts with day := part 0 0 }
  | "setHours" | "setUTCHours" =>
    some { parts with
      hour := part 0 0, minute := part 1 parts.minute, second := part 2 parts.second
      millisecond := part 3 parts.millisecond }
  | "setMinutes" | "setUTCMinutes" =>
    some { parts with
      minute := part 0 0, second := part 1 parts.second, millisecond := part 2 parts.millisecond }
  | "setSeconds" | "setUTCSeconds" =>
    some { parts with second := part 0 0, millisecond := part 1 parts.millisecond }
  | "setMilliseconds" | "setUTCMilliseconds" => some { parts with millisecond := part 0 0 }
  | _ => none

def dateText? (name : String) : Option (Int → DateParts → String) :=
  match name with
  | "toString" => some DateParts.fullText
  | "toDateString" => some DateParts.dateText
  | "toTimeString" => some fun _ parts => DateParts.timeText parts ++ " GMT+0000"
  | "toUTCString" => some DateParts.universalText
  | "toLocaleString" =>
    some fun _ parts => DateParts.shortDate parts ++ ", " ++ DateParts.shortTime parts
  | "toLocaleDateString" => some fun _ parts => DateParts.shortDate parts
  | "toLocaleTimeString" => some fun _ parts => DateParts.shortTime parts
  | _ => none

def thisDate (this : Value) : M (Ref × Float) := do
  match this with
  | .object ref =>
    match (← getObject ref).kind with
    | .date time => return (ref, time)
    | _ => throwType "not a Date object"
  | _ => throwType "not a Date object"

def setDate (ref : Ref) (time : Float) : M Value := do
  modifyObject ref fun object => { object with kind := .date time }
  return .number time

/-- The number of parts of a date that a method can replace. -/
def changedParts (name : String) : Nat :=
  match name with
  | "setHours" | "setUTCHours" => 4
  | "setFullYear" | "setUTCFullYear" | "setMinutes" | "setUTCMinutes" => 3
  | "setMonth" | "setUTCMonth" | "setSeconds" | "setUTCSeconds" => 2
  | _ => 1

/-- Replaces parts of a date. A date stays as it is if a part that is given is not finite. -/
def changeDate (name : String) (ref : Ref) (time : Float) (call : LibraryCall) : M Value := do
  let time := if time.isNaN && (name == "setFullYear" || name == "setUTCFullYear") then 0 else time
  let numbers ← (call.arguments.toList.take (changedParts name)).mapM (toNumber it)
  if time.isNaN || !numbers.all Number.isFinite then return .number Number.nan
  match partsOf? numbers with
  | some (first :: rest) =>
    match dateChange? name (DateParts.ofInstant (Number.toInt time)) (first :: rest) with
    | some parts => setDate ref (instantFloat parts.toInstant)
    | none => return .undefined
  | _ => setDate ref Number.nan

/-- Changes the year; one of two digits is one of the twentieth century. -/
def changeYear (ref : Ref) (time : Float) (call : LibraryCall) : M Value := do
  let year ← toNumber it call.first
  if year.isNaN then setDate ref year
  else
    let whole := Number.truncate year
    let year := if 0 ≤ whole && whole < 100 then whole + 1900 else year
    changeDate it "setFullYear" ref time { call with arguments := #[.number year] }

/-- A date as a value other than an object; a text unless a number is asked for. -/
def datePrimitive (call : LibraryCall) : M Value := do
  let .object _ := call.this | throwType "not an object"
  match call.first with
  | .text hint =>
    match hint.toText with
    | "number" | "integer" => ordinaryPrimitive it call.this ["valueOf", "toString"]
    | "string" | "default" => ordinaryPrimitive it call.this ["toString", "valueOf"]
    | _ => throwType "invalid hint"
  | _ => throwType "invalid hint"

def datePrototype : LibraryCode := fun name call => do
  match name with
  | "[Symbol.toPrimitive]" => datePrimitive it call
  | "toJSON" =>
    match ← toPrimitive it .number call.this with
    | .number value =>
      if Number.isFinite value then invoke it call.this "toISOString" #[] else return .null
    | _ => invoke it call.this "toISOString" #[]
  | name =>
    let (ref, time) ← thisDate call.this
    match name with
    | "getTime" | "valueOf" => return .number time
    | "setYear" => changeYear it ref time call
    | "setTime" => setDate ref (clipInstant (← toNumber it call.first))
    | "toISOString" =>
      if time.isNaN then throwRange "Date value is NaN"
      return .ofText (DateParts.isoText (DateParts.ofInstant (Number.toInt time)))
    | name =>
      match datePart? name, dateText? name with
      | some part, _ =>
        if time.isNaN then return .number Number.nan
        let instant := Number.toInt time
        return .ofInt (part instant (DateParts.ofInstant instant))
      | none, some describe => return describeInstant time describe
      | none, none => changeDate it name ref time call

def datePrototypeGroup : LibraryGroup where
  library := .datePrototype
  members :=
    [ .method "valueOf" 0, .method "toString" 0, .keyed .toPrimitive 1, .method "toUTCString" 0,
      .alias "toGMTString" "toUTCString", .method "toISOString" 0, .method "toDateString" 0,
      .method "toTimeString" 0, .method "toLocaleString" 0, .method "toLocaleDateString" 0,
      .method "toLocaleTimeString" 0, .method "getTimezoneOffset" 0, .method "getTime" 0,
      .method "getYear" 0, .method "getFullYear" 0, .method "getUTCFullYear" 0,
      .method "getMonth" 0, .method "getUTCMonth" 0, .method "getDate" 0, .method "getUTCDate" 0,
      .method "getHours" 0, .method "getUTCHours" 0, .method "getMinutes" 0,
      .method "getUTCMinutes" 0, .method "getSeconds" 0, .method "getUTCSeconds" 0,
      .method "getMilliseconds" 0, .method "getUTCMilliseconds" 0, .method "getDay" 0,
      .method "getUTCDay" 0, .method "setTime" 1, .method "setMilliseconds" 1,
      .method "setUTCMilliseconds" 1, .method "setSeconds" 2, .method "setUTCSeconds" 2,
      .method "setMinutes" 3, .method "setUTCMinutes" 3, .method "setHours" 4,
      .method "setUTCHours" 4, .method "setDate" 1, .method "setUTCDate" 1, .method "setMonth" 2,
      .method "setUTCMonth" 2, .method "setYear" 1, .method "setFullYear" 3,
      .method "setUTCFullYear" 3, .method "toJSON" 1 ]

end Fingerprint.Script.Standard
