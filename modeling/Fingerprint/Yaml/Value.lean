import Fingerprint.Data.Basic
import Fingerprint.Decimal.Double
import Fingerprint.Yaml.Parser

/-!
What plain scalars denote: null, a truth value, an integer, a double, or a text.

A number may be written with a sign; integers also in base 16, 8 and 2. A number with needless zeros
in front is a text. A tag chooses one of these readings.
-/

namespace Fingerprint.Yaml

def isNull (text : String) : Bool := ["null", "Null", "NULL", "~"].contains text

def truth? (text : String) : Option Bool :=
  if ["true", "True", "TRUE"].contains text then some true
  else if ["false", "False", "FALSE"].contains text then some false
  else none

/-- The characters without a sign at the front. -/
def dropSign : List Char → List Char
  | '+' :: rest | '-' :: rest => rest
  | chars => chars

def hasSign : List Char → Bool
  | '+' :: _ | '-' :: _ => true
  | _ => false

/-- Whether the characters are digits with a needless zero in front. -/
def hasNeedlessZero (chars : List Char) : Bool :=
  match dropSign chars with
  | '0' :: next :: rest => (next :: rest).all Char.isDigit
  | _ => false

/-- The number that digits of a base write. -/
def natural? (base : Nat) (digits : List Char) : Option Nat :=
  if digits.isEmpty then none
  else digits.foldlM (fun value c => do
    let digit ← (Text.hexValue? c).filter (· < base)
    return value * base + digit) 0

/-- The base that a prefix stands for, and the digits behind it. -/
def basePrefix? : List Char → Option (Nat × List Char)
  | '0' :: 'x' :: rest => some (16, rest)
  | '0' :: 'o' :: rest => some (8, rest)
  | '0' :: 'b' :: rest => some (2, rest)
  | _ => none

/-- An integer without its sign. -/
def magnitude? (chars : List Char) : Option Nat :=
  match (basePrefix? chars).bind fun (base, digits) => natural? base digits with
  | some value => some value
  | none => if hasNeedlessZero chars then none else natural? 10 chars

/-- An integer as a value. Integers beyond 64 bits denote nothing as long as they fit 128 bits. -/
def integer? (chars : List Char) : Option Data :=
  match chars with
  | '-' :: rest =>
    (magnitude? rest).bind fun value =>
      if value = 0 then some (.natural 0)
      else if value ≤ 1 <<< 63 then some (.integer (-value))
      else if value ≤ 1 <<< 127 then some .unreadable
      else none
  | _ =>
    let rest := match chars with
      | '+' :: rest => rest
      | _ => chars
    (magnitude? rest).bind fun value =>
      if value < 1 <<< 64 then some (.natural value)
      else if value < 1 <<< 128 then some .unreadable
      else none

/-- The digits of an exponent behind its letter, with its sign. -/
def exponent? (chars : List Char) : Option Int :=
  match chars with
  | [] => some 0
  | letter :: rest =>
    if letter = 'e' || letter = 'E' then
      let digits := dropSign rest
      (natural? 10 digits).map fun value =>
        if rest.head? = some '-' then -(value : Int) else value
    else none

/-- A finite decimal number without its sign: digits, with a point anywhere among them, and an
exponent. -/
def decimal? (chars : List Char) : Option Float := do
  let whole := chars.takeWhile Char.isDigit
  let rest := chars.dropWhile Char.isDigit
  let (fraction, rest) := match rest with
    | '.' :: rest => (rest.takeWhile Char.isDigit, rest.dropWhile Char.isDigit)
    | _ => ([], rest)
  let digits ← natural? 10 (whole ++ fraction)
  let value := Decimal.nearest digits ((← exponent? rest) - (fraction.length : Int))
  if value.isInf then none else return value

/-- A double by its bits. -/
def float? (text : String) : Option UInt64 :=
  let chars := text.toList
  let unsigned := match chars with
    | '+' :: rest => rest
    | _ => chars
  if [".inf", ".Inf", ".INF"].contains (String.ofList unsigned) then some 0x7FF0000000000000
  else if ["-.inf", "-.Inf", "-.INF"].contains text then some 0xFFF0000000000000
  else if [".nan", ".NaN", ".NAN"].contains text then some 0x7FF8000000000000
  else if chars.head? = some '+' && hasSign unsigned then none
  else if chars.head? = some '-' then (decimal? (dropSign chars)).map fun value => (-value).toBits
  else (decimal? unsigned).map Float.toBits

/-- What a plain scalar without a tag denotes. -/
def plainValue (text : String) : Data :=
  let chars := text.toList
  if text.isEmpty || isNull text then .null
  else match truth? text with
    | some value => .bool value
    | none =>
      match integer? chars with
      | some value => value
      | none =>
        match (if hasNeedlessZero chars then none else float? text) with
        | some bits => .float bits
        | none => .text text

/-- What a scalar with a tag denotes. -/
def taggedValue (text tag : String) : Data :=
  let read (value : Option Data) : Data := value.getD .unreadable
  if tag = "tag:yaml.org,2002:bool" then read ((truth? text).map .bool)
  else if tag = "tag:yaml.org,2002:int" then read (integer? text.toList)
  else if tag = "tag:yaml.org,2002:float" then read ((float? text).map .float)
  else if tag = "tag:yaml.org,2002:null" then (if isNull text then .null else .unreadable)
  else .text text

/-- Whether a tag marks a value of a kind of its own, which denotes nothing here. -/
def isLocalTag (tag : String) : Bool := tag.startsWith "!"

namespace Node

/-- What a scalar denotes. -/
def scalarValue (text : String) (plain : Bool) (tag : Option String) : Data :=
  match tag with
  | some tag => if isLocalTag tag then .unreadable else taggedValue text tag
  | none => if plain then plainValue text else .text text

def scalarToData (text : String) (plain : Bool) (tag : Option String) : Following Data :=
  match scalarValue text plain tag with
  | .unreadable => failure
  | value => return value

/-- What a value denotes, if no part of it is unreadable and at most `depth` collections lie within
each other. -/
def toData : Nat → Node → Following Data
  | 0, node => do
    match ← node.followed with
    | .scalar text plain tag => scalarToData text plain tag
    | _ => failure
  | depth + 1, node => do
    match ← node.followed with
    | .scalar text plain tag => scalarToData text plain tag
    | .sequence items tag =>
      if tag.any isLocalTag then failure else return .list (← items.mapM (toData depth))
    | .mapping entries tag =>
      if tag.any isLocalTag then failure
      else
        return .record (← entries.mapM fun (key, value) => do
          return (← key.toData depth, ← value.toData depth))
    | .alias _ => failure

end Node

/-- The most collections within each other that are read. -/
def depthLimit : Nat := 128

/-- The value of a YAML text all of whose parts can be read. -/
def parseWhole? (text : String) : Option Data :=
  match parse? text with
  | some (some document) => document.read? (·.toData depthLimit)
  | _ => none

end Fingerprint.Yaml
