import Fingerprint.Script.NumberFormat

/-!
Instants as days and times of the calendar. An instant is a number of milliseconds since the start
of 1970; there is one time zone.
-/

namespace Fingerprint.Script

/-- The parts of an instant. -/
structure DateParts where
  year : Int
  /-- From 0 on. -/
  month : Int
  day : Int
  hour : Int
  minute : Int
  second : Int
  millisecond : Int
deriving DecidableEq, Repr, Inhabited

namespace DateParts

def millisecondsPerDay : Int := 86400000

/-- The days from the start of 1970 up to a day of a month, which counts from 1. Years begin with
March here, so that the day of a leap year comes last. -/
def dayNumber (year month day : Int) : Int :=
  let year := if month ≤ 2 then year - 1 else year
  let era := year.fdiv 400
  let yearOfEra := year - era * 400
  let dayOfYear := (153 * (if 2 < month then month - 3 else month + 9) + 2).fdiv 5 + day - 1
  let dayOfEra := yearOfEra * 365 + yearOfEra.fdiv 4 - yearOfEra.fdiv 100 + dayOfYear
  era * 146097 + dayOfEra - 719468

/-- The year, month from 1 and day of a number of days from the start of 1970. -/
def ofDayNumber (days : Int) : Int × Int × Int :=
  let days := days + 719468
  let era := days.fdiv 146097
  let dayOfEra := days - era * 146097
  let yearOfEra :=
    (dayOfEra - dayOfEra.fdiv 1460 + dayOfEra.fdiv 36524 - dayOfEra.fdiv 146096).fdiv 365
  let dayOfYear := dayOfEra - (365 * yearOfEra + yearOfEra.fdiv 4 - yearOfEra.fdiv 100)
  let shifted := (5 * dayOfYear + 2).fdiv 153
  let day := dayOfYear - (153 * shifted + 2).fdiv 5 + 1
  let month := if shifted < 10 then shifted + 3 else shifted - 9
  let year := yearOfEra + era * 400
  (if month ≤ 2 then year + 1 else year, month, day)

/-- The instant of parts, which may lie outside their usual bounds. -/
def toInstant (parts : DateParts) : Int :=
  let year := parts.year + parts.month.fdiv 12
  let month := parts.month.fmod 12
  let days := dayNumber year (month + 1) 1 + parts.day - 1
  days * millisecondsPerDay + parts.hour * 3600000 + parts.minute * 60000 + parts.second * 1000 +
    parts.millisecond

def ofInstant (instant : Int) : DateParts :=
  let days := instant.fdiv millisecondsPerDay
  let rest := instant.fmod millisecondsPerDay
  let (year, month, day) := ofDayNumber days
  ⟨year, month - 1, day, rest / 3600000, rest / 60000 % 60, rest / 1000 % 60, rest % 1000⟩

/-- The day of the week, from Sunday on. -/
def weekday (instant : Int) : Int := (instant.fdiv millisecondsPerDay + 4).fmod 7

/-- The largest distance of an instant from the start of 1970. -/
def limit : Float := 8640000000000000

/-! ### Texts -/

def padded (width : Nat) (value : Int) : String :=
  let text := toString value.natAbs
  Number.zeros (width - text.length) ++ text

def yearText (year : Int) : String :=
  if 0 ≤ year && year ≤ 9999 then padded 4 year
  else (if year < 0 then "-" else "+") ++ padded 6 year

def timeText (parts : DateParts) : String :=
  padded 2 parts.hour ++ ":" ++ padded 2 parts.minute ++ ":" ++ padded 2 parts.second

def isoText (parts : DateParts) : String :=
  yearText parts.year ++ "-" ++ padded 2 (parts.month + 1) ++ "-" ++ padded 2 parts.day ++ "T" ++
    timeText parts ++ "." ++ padded 3 parts.millisecond ++ "Z"

def weekdayNames : List String := ["Sun", "Mon", "Tue", "Wed", "Thu", "Fri", "Sat"]

def monthNames : List String :=
  ["Jan", "Feb", "Mar", "Apr", "May", "Jun", "Jul", "Aug", "Sep", "Oct", "Nov", "Dec"]

def nameAt (names : List String) (place : Int) : String := names.getD place.toNat ""

def signedYear (year : Int) : String := (if year < 0 then "-" else "") ++ padded 4 year

def dateText (instant : Int) (parts : DateParts) : String :=
  nameAt weekdayNames (weekday instant) ++ " " ++ nameAt monthNames parts.month ++ " " ++
    padded 2 parts.day ++ " " ++ signedYear parts.year

def fullText (instant : Int) (parts : DateParts) : String :=
  dateText instant parts ++ " " ++ timeText parts ++ " GMT+0000"

def universalText (instant : Int) (parts : DateParts) : String :=
  nameAt weekdayNames (weekday instant) ++ ", " ++ padded 2 parts.day ++ " " ++
    nameAt monthNames parts.month ++ " " ++ signedYear parts.year ++ " " ++ timeText parts ++ " GMT"

def shortDate (parts : DateParts) : String :=
  padded 2 (parts.month + 1) ++ "/" ++ padded 2 parts.day ++ "/" ++ signedYear parts.year

def shortTime (parts : DateParts) : String :=
  let hour := if parts.hour % 12 = 0 then 12 else parts.hour % 12
  padded 2 hour ++ ":" ++ padded 2 parts.minute ++ ":" ++ padded 2 parts.second ++
    (if parts.hour < 12 then " AM" else " PM")

end DateParts

end Fingerprint.Script
