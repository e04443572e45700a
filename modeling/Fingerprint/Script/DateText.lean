import Fingerprint.Script.Calendar

/-!
Reading dates from texts: first in the form of the standard, then in any of the forms that people
write, word by word.

A reader takes the characters that are left and yields those behind what it has read.
-/

namespace Fingerprint.Script.DateText

/-- The parts of a date as a text gives them, and the distance of its time zone in minutes. -/
structure Fields where
  year : Int
  /-- From 1 on. -/
  month : Int
  day : Int
  hour : Int
  minute : Int
  second : Int
  millisecond : Int
  zone : Int
deriving Inhabited

namespace Fields

/-- Whether the parts lie within their bounds; the end of a day can be written as its hour 24. -/
def isValid (fields : Fields) : Bool :=
  fields.month ≤ 12 && fields.day ≤ 31 && fields.hour ≤ 24 && fields.minute ≤ 59 &&
    fields.second ≤ 59 &&
    (fields.hour ≠ 24 || (fields.minute = 0 && fields.second = 0 && fields.millisecond = 0))

/-- The instant without regard to the time zone. -/
def localInstant (fields : Fields) : Int :=
  (DateParts.mk fields.year (fields.month - 1) fields.day fields.hour fields.minute fields.second
    fields.millisecond).toInstant

end Fields

/-! ### Pieces -/

def digitsValue (digits : List Char) : Nat :=
  digits.foldl (fun value digit => value * 10 + (digit.toNat - 48)) 0

/-- A number of at least `least` digits, of which at most `most` are taken; longer numbers than
those of nine digits are refused. -/
def readNumber (least : Nat) (most : Option Nat) (chars : List Char) : Option (Nat × List Char) :=
  let run := chars.takeWhile Char.isDigit
  let digits := match most with
    | some most => run.take most
    | none => run
  let value := digitsValue digits
  if digits.length < least || 999999999 < value then none
  else some (value, chars.drop digits.length)

def readDigits (count : Nat) (chars : List Char) : Option (Nat × List Char) :=
  readNumber count (some count) chars

/-- Passes over a character, if it is the next one. -/
def skip? (c : Char) (chars : List Char) : Option (List Char) :=
  match chars with
  | first :: rest => if first = c then some rest else none
  | [] => none

/-- The digits behind a point or comma as milliseconds; a mark without digits is not taken. -/
def readFraction (chars : List Char) : Nat × List Char :=
  match chars with
  | mark :: rest =>
    let digits := (rest.takeWhile Char.isDigit).take 9
    if (mark = '.' || mark = ',') && !digits.isEmpty then
      (digitsValue ((digits ++ ['0', '0']).take 3), rest.drop digits.length)
    else (0, chars)
  | [] => (0, [])

/-- The last four digits or less of a number that was written with some more. -/
def shorten : Nat → Nat → Nat × Nat
  | 0, value => (0, value)
  | 1, value => (1, value)
  | 2, value => (2, value)
  | 3, value => (3, value)
  | 4, value => (4, value)
  | count + 2, value => shorten count (value / 100)

/-- The distance of a time zone behind its sign. -/
def readDistance (isStrict : Bool) (chars : List Char) : Option (Nat × List Char) := do
  let (value, rest) ← readNumber 1 none chars
  let count := chars.length - rest.length
  if isStrict && count ≠ 2 && count ≠ 4 then none
  else
    let (count, value) := shorten count value
    let (hours, minutes, rest) ←
      if 2 < count then some (value / 100, value % 100, rest)
      else
        match skip? ':' rest with
        | some rest => (readDigits 2 rest).map fun (minutes, rest) => (value, minutes, rest)
        | none => some (value, 0, rest)
    if 23 < hours || 59 < minutes then none else some (hours * 60 + minutes, rest)

/-- A time zone as its distance, or the letter of the one without a distance. -/
def readZone (isStrict : Bool) (chars : List Char) : Option (Int × List Char) :=
  match chars with
  | '+' :: rest => (readDistance isStrict rest).map fun (zone, rest) => (zone, rest)
  | '-' :: rest => (readDistance isStrict rest).map fun (zone, rest) => (-zone, rest)
  | 'Z' :: rest => some (0, rest)
  | _ => none

/-! ### The form of the standard -/

/-- The year, month and day in the form of the standard. -/
def readStandardDay (chars : List Char) : Option (Int × Int × Int × List Char) := do
  let (year, rest) ← match chars with
    | '+' :: rest => (readDigits 6 rest).map fun (year, rest) => ((year : Int), rest)
    | '-' :: rest =>
      (readDigits 6 rest).bind fun (year, rest) =>
        if year = 0 then none else some (-(year : Int), rest)
    | chars => (readDigits 4 chars).map fun (year, rest) => ((year : Int), rest)
  match skip? '-' rest with
  | none => return (year, 1, 1, rest)
  | some rest =>
    let (month, rest) ← readDigits 2 rest
    if month < 1 then none
    match skip? '-' rest with
    | none => return (year, month, 1, rest)
    | some rest =>
      let (day, rest) ← readDigits 2 rest
      if day < 1 then none
      return (year, month, day, rest)

/-- What the form of the standard says about a text. -/
inductive Standard where
  | fields (fields : Fields)
  /-- The text has the form but for its time, so that nothing else is tried. -/
  | refused
  | other

def readHourMinute (chars : List Char) : Option (Nat × Nat × List Char) := do
  let (hour, rest) ← readDigits 2 chars
  let (minute, rest) ← readDigits 2 (← skip? ':' rest)
  return (hour, minute, rest)

/-- The seconds with their fraction, if there are any. -/
def readSeconds (chars : List Char) : Option (Nat × Nat × List Char) :=
  match skip? ':' chars with
  | none => some (0, 0, chars)
  | some rest => do
    let (second, rest) ← readDigits 2 rest
    let (millisecond, rest) := readFraction rest
    return (second, millisecond, rest)

/-- A time zone at the end of a text. -/
def endZone (chars : List Char) : Option Int :=
  match chars with
  | [] => some 0
  | chars => (readZone true chars).bind fun (zone, rest) => if rest.isEmpty then some zone else none

def readStandard (chars : List Char) : Standard :=
  match readStandardDay chars with
  | none => .other
  | some (year, month, day, rest) =>
    match skip? 'T' rest with
    | none =>
      match endZone rest with
      | some zone => .fields ⟨year, month, day, 0, 0, 0, 0, zone⟩
      | none => .other
    | some rest =>
      match readHourMinute rest with
      | none => .refused
      | some (hour, minute, rest) =>
        let read : Option Fields := do
          let (second, millisecond, rest) ← readSeconds rest
          return ⟨year, month, day, hour, minute, second, millisecond, ← endZone rest⟩
        match read with
        | some fields => .fields fields
        | none => .other

/-! ### Other forms -/

/-- What the words of a text have given so far. -/
structure Words where
  fields : Fields
  hasYear : Bool
  hasMonth : Bool
  hasTime : Bool
  /-- The numbers that can be days, months or years. -/
  numbers : List Nat
deriving Inhabited

def Words.empty : Words := ⟨⟨2001, 1, 1, 0, 0, 0, 0, 0⟩, false, false, false, []⟩

/-- Whether something that counts has been read. -/
def Words.isStarted (words : Words) : Bool :=
  words.hasYear || words.hasMonth || words.hasTime || !words.numbers.isEmpty

/-- Whether a text starts with a word in capital or small letters; yields what is behind it. -/
def skipWord? (word : String) (chars : List Char) : Option (List Char) :=
  let count := word.length
  if (chars.take count).map Char.toUpper = word.toList.map Char.toUpper then some (chars.drop count)
  else none

def skipUntil (stops : String) (chars : List Char) : List Char :=
  chars.dropWhile fun c => !stops.toList.contains c

def skipSeparators (chars : List Char) : List Char :=
  chars.dropWhile fun c => c = '-' || c = '/' || c = '.' || c = ','

/-- The number of a month whose name a text starts with. -/
def readMonth (chars : List Char) : Option (Nat × List Char) :=
  DateParts.monthNames.zipIdx.findSome? fun (name, place) =>
    (skipWord? name chars).map fun rest => (place + 1, rest)

/-- The time zones that have names, with their distances in hours. -/
def zoneNames : List (String × Int) :=
  [ ("GMT", 0), ("UTC", 0), ("UT", 0), ("Z", 0), ("EDT", -4), ("EST", -5), ("CDT", -5),
    ("CST", -6), ("MDT", -6), ("MST", -7), ("PDT", -7), ("PST", -8), ("WET", 0), ("WEST", 1),
    ("CET", 1), ("CEST", 2), ("EET", 2), ("EEST", 3) ]

def readZoneName (chars : List Char) : Option (Int × List Char) :=
  zoneNames.findSome? fun (name, hours) =>
    (skipWord? name chars).map fun rest => (hours * 60, rest)

/-- What is behind a phrase in parentheses, which may contain others. -/
def skipPhrase : Nat → List Char → Option (List Char)
  | _, [] => none
  | level, '(' :: rest => skipPhrase (level + 1) rest
  | level, ')' :: rest => if level ≤ 1 then some rest else skipPhrase (level - 1) rest
  | level, _ :: rest => if level = 0 then some rest else skipPhrase level rest

/-- The year that a number of two digits or more stands for. -/
def fullYear (value : Nat) : Nat :=
  value + (if value < 100 then 1900 else 0) + (if value < 50 then 100 else 0)

/-- A time whose hour has been read, and the colon behind it. -/
def readClock (words : Words) (hour : Nat) (chars : List Char) : Option (Words × List Char) := do
  let (minute, rest) ← readNumber 1 (some 2) chars
  let fields := { words.fields with hour := hour, minute := minute }
  match skip? ':' rest with
  | some rest =>
    let (second, rest) ← readNumber 1 (some 2) rest
    let (millisecond, rest) := readFraction rest
    let fields := { fields with second := second, millisecond := millisecond }
    return ({ words with fields := fields, hasTime := true }, rest)
  | none =>
    match rest with
    | [] | ' ' :: _ => return ({ words with fields := fields, hasTime := true }, rest)
    | _ => none

/-- A number that is no time: a year if it cannot be the day of a month. -/
def addNumber (words : Words) (value count : Nat) : Option Words :=
  if 2 < count then
    some { words with fields := { words.fields with year := value }, hasYear := true }
  else if value < 1 || 31 < value then
    some { words with fields := { words.fields with year := fullYear value }, hasYear := true }
  else if words.numbers.length = 3 then none
  else some { words with numbers := words.numbers ++ [value] }

/-- A sign: of the distance of a time zone behind a time, of a year otherwise. -/
def readSigned (words : Words) (isMinus : Bool) (chars rest : List Char) :
    Option (Words × List Char) :=
  match if words.hasTime then readZone false chars else none with
  | some (zone, rest) => some ({ words with fields := { words.fields with zone := zone } }, rest)
  | none =>
    match readNumber 1 none rest with
    | some (value, rest) =>
      if isMinus && value = 0 then none
      else
        let year : Int := if isMinus then -value else value
        some ({ words with fields := { words.fields with year := year }, hasYear := true }, rest)
    | none => some (words, rest)

/-- The hour of the afternoon or the morning. -/
def halfDay (words : Words) (isAfternoon : Bool) : Option Words :=
  let hour := words.fields.hour
  let withHour (hour : Int) : Words := { words with fields := { words.fields with hour := hour } }
  if isAfternoon then some (if hour = 12 then words else withHour (hour + 12))
  else if 12 < hour then none
  else some (if hour = 12 then withHour 0 else words)

/-- Reads a word that is neither a number nor a sign. Separators behind some words are left for the
next one. -/
def readName (words : Words) (chars : List Char) : Option (Words × List Char) :=
  match readMonth chars with
  | some (month, rest) =>
    some ({ words with fields := { words.fields with month := month }, hasMonth := true },
      skipSeparators (skipUntil "0123456789 -/(" rest))
  | none =>
    match if words.hasTime then skipWord? "PM" chars else none,
        if words.hasTime then skipWord? "AM" chars else none, readZoneName chars with
    | some rest, _, _ => (halfDay words true).map (·, rest)
    | none, some rest, _ => (halfDay words false).map (·, rest)
    | none, none, some (zone, rest) =>
      some ({ words with fields := { words.fields with zone := zone } }, rest)
    | none, none, none =>
      match chars with
      | '(' :: _ => (skipPhrase 0 chars).map fun rest => (words, skipSeparators rest)
      | ')' :: _ => none
      | _ =>
        if words.isStarted then none
        else some (words, skipSeparators (skipUntil " -/(" chars))

def readWord (words : Words) (chars : List Char) : Option (Words × List Char) :=
  let separated (read : Option (Words × List Char)) : Option (Words × List Char) :=
    read.map fun (words, rest) => (words, skipSeparators rest)
  match chars with
  | '+' :: rest => separated (readSigned words false chars rest)
  | '-' :: rest => separated (readSigned words true chars rest)
  | _ =>
    match readNumber 1 none chars with
    | some (value, rest) =>
      match skip? ':' rest with
      | some rest => separated (readClock words value rest)
      | none =>
        (addNumber words value (chars.length - rest.length)).map fun words =>
          (words, skipSeparators rest)
    | none => readName words chars

/-- Reads all words; `fuel` bounds them. -/
def readWords : Nat → Words → List Char → Option Words
  | 0, _, _ => none
  | fuel + 1, words, chars =>
    match chars.dropWhile (· = ' ') with
    | [] => some words
    | chars => do
      let (words, rest) ← readWord words chars
      if rest.length < chars.length then readWords fuel words rest else none

/-- The date that the words of a text give. -/
def Words.toFields (words : Words) : Option Fields := do
  let fields := words.fields
  let count :=
    words.numbers.length + (if words.hasYear then 1 else 0) + (if words.hasMonth then 1 else 0)
  if 3 < count then none
  let fields ← match words.numbers with
    | [] => if words.hasYear then some fields else none
    | [number] =>
      some (if words.hasMonth then { fields with day := number }
        else { fields with month := number })
    | [first, second] =>
      some (if words.hasMonth && !words.hasYear then
          { fields with year := fullYear second, day := first }
        else { fields with month := first, day := second })
    | [first, second, third] =>
      some { fields with year := fullYear third, month := first, day := second }
    | _ => none
  if fields.month < 1 || fields.day < 1 then none else some fields

/-! ### All forms -/

/-- The number of characters of a text that are looked at. -/
def lengthLimit : Nat := 127

/-- A unit as the readers see it: of those that are not Latin only the sign of minus counts. -/
def plainChar (unit : UInt16) : Char :=
  if unit ≤ 255 then Char.ofNat unit.toNat else if unit = 0x2212 then '-' else 'x'

/-- The instant without regard to the time zone, and the distance of the zone in milliseconds. -/
def read? (text : Units) : Option (Int × Int) :=
  let chars := ((text.slice 0 lengthLimit).data.toList.map plainChar).takeWhile (· ≠ '\x00')
  let fields := match readStandard chars with
    | .fields fields => some fields
    | .refused => none
    | .other => (readWords (chars.length + 1) .empty chars).bind Words.toFields
  (fields.filter Fields.isValid).map fun fields => (fields.localInstant, fields.zone * 60000)

end Fingerprint.Script.DateText
