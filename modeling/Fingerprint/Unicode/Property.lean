import Fingerprint.Unicode.CodePoints
import Fingerprint.Unicode.CategoryTable
import Fingerprint.Unicode.ScriptTable
import Fingerprint.Unicode.PropertyTable
import Fingerprint.Unicode.SegmentTable

/-!
Classes of characters by the name of a property.

A name is matched loosely: case, spaces, underscores, hyphens and a leading `is` do not matter.
A name alone denotes a yes-or-no property, a general category or a script, in this order; a name
with a value denotes the characters for which the property has that value.
-/

namespace Fingerprint.Unicode

/-- The form in which names are compared. A lone `isc` keeps its letters, since it names the
category `c`. -/
def looseName (name : String) : String :=
  let chars := name.toList
  let startsWithIs := match chars with
    | i :: s :: _ => (i = 'i' || i = 'I') && (s = 's' || s = 'S')
    | _ => false
  let kept := (if startsWithIs then chars.drop 2 else chars).filterMap fun c =>
    if c = ' ' || c = '_' || c = '-' || 0x80 ≤ c.toNat then none else some c.toLower
  if startsWithIs && kept = ['c'] then "isc" else String.ofList kept

/-- The entry of a table whose name is loosely `name`. -/
def lookupLoose (name : String) (table : List (String × α)) : Option α :=
  (table.find? (fun entry => looseName entry.1 = name)).map (·.2)

/-- The general categories with their long names and further aliases; a group lists its members. -/
def categoryNames : List (String × List String × List String) :=
  let groups : List (String × List String) :=
    [ ("C", ["Cc", "Cf", "Cn", "Co"]), ("L", ["Lu", "Ll", "Lt", "Lm", "Lo"]),
      ("LC", ["Lu", "Ll", "Lt"]), ("M", ["Mn", "Mc", "Me"]), ("N", ["Nd", "Nl", "No"]),
      ("P", ["Pc", "Pd", "Ps", "Pe", "Pi", "Pf", "Po"]), ("S", ["Sm", "Sc", "Sk", "So"]),
      ("Z", ["Zs", "Zl", "Zp"]) ]
  let names : List (String × List String) :=
    [ ("C", ["Other"]), ("Cc", ["Control", "cntrl"]), ("Cf", ["Format"]),
      ("Cn", ["Unassigned"]), ("Co", ["Private_Use"]), ("L", ["Letter"]),
      ("LC", ["Cased_Letter"]), ("Ll", ["Lowercase_Letter"]), ("Lm", ["Modifier_Letter"]),
      ("Lo", ["Other_Letter"]), ("Lt", ["Titlecase_Letter"]), ("Lu", ["Uppercase_Letter"]),
      ("M", ["Mark", "Combining_Mark"]), ("Mc", ["Spacing_Mark"]), ("Me", ["Enclosing_Mark"]),
      ("Mn", ["Nonspacing_Mark"]), ("N", ["Number"]), ("Nd", ["Decimal_Number", "digit"]),
      ("Nl", ["Letter_Number"]), ("No", ["Other_Number"]), ("P", ["Punctuation", "punct"]),
      ("Pc", ["Connector_Punctuation"]), ("Pd", ["Dash_Punctuation"]),
      ("Pe", ["Close_Punctuation"]), ("Pf", ["Final_Punctuation"]),
      ("Pi", ["Initial_Punctuation"]), ("Po", ["Other_Punctuation"]),
      ("Ps", ["Open_Punctuation"]), ("S", ["Symbol"]), ("Sc", ["Currency_Symbol"]),
      ("Sk", ["Modifier_Symbol"]), ("Sm", ["Math_Symbol"]), ("So", ["Other_Symbol"]),
      ("Z", ["Separator"]), ("Zl", ["Line_Separator"]), ("Zp", ["Paragraph_Separator"]),
      ("Zs", ["Space_Separator"]) ]
  names.map fun (short, long) => (short, short :: long, ((groups.lookup short).getD [short]))

/-- The characters of a general category given by its two-letter name. -/
def category (short : String) : CodePoints :=
  CodePoints.ofText ((categoryText.lookup short).getD "")

/-- The characters of several general categories. -/
def categories (shorts : List String) : CodePoints :=
  CodePoints.ofRanges (shorts.flatMap fun short => (category short).ranges)

/-- The characters of the category, or group of categories, with this loose name. -/
def categoryNamed? (name : String) : Option CodePoints :=
  if name = "any" then some CodePoints.all
  else if name = "assigned" then some (category "Cn").complement
  else if name = "ascii" then some (CodePoints.range 0 0x7F)
  else
    (categoryNames.find? (fun entry => entry.2.1.any (looseName · = name))).map
      (fun entry => categories entry.2.2)

/-- The long name of the script with this loose name or alias. -/
def scriptName? (name : String) : Option String :=
  match (scriptText.find? (fun entry => looseName entry.1 = name)).map (·.1) with
  | some long => some long
  | none => lookupLoose name scriptAliases

def scriptNamed? (name : String) : Option CodePoints := do
  let long ← scriptName? name
  let text ← scriptText.lookup long
  return CodePoints.ofText text

def scriptExtensionsNamed? (name : String) : Option CodePoints := do
  let long ← scriptName? name
  match scriptExtensionsText.lookup long with
  | some text => return CodePoints.ofText text
  | none => scriptNamed? name

/-- The characters with the yes-or-no property of this loose name. -/
def propertyNamed? (name : String) : Option CodePoints :=
  match lookupLoose name propertyText with
  | some text => some (CodePoints.ofText text)
  | none => do
    let long ← lookupLoose name propertyAliases
    let text ← propertyText.lookup long
    return CodePoints.ofText text

/-- The characters that a property name alone denotes. The short names `cf`, `sc` and `lc` are
general categories although they also abbreviate properties. -/
def classNamed? (written : String) : Option CodePoints :=
  let name := looseName written
  let property := if name = "cf" || name = "sc" || name = "lc" then none else propertyNamed? name
  property.or ((categoryNamed? name).or (scriptNamed? name))

/-- The entries up to and including the one with this loose name, joined. -/
def upTo? (name : String) (table : List (String × String)) : Option CodePoints :=
  let before := table.takeWhile (fun entry => looseName entry.1 ≠ name)
  match table.drop before.length with
  | [] => none
  | found :: _ =>
    some (CodePoints.ofRanges ((before ++ [found]).flatMap fun entry =>
      (CodePoints.ofText entry.2).ranges))

/-- Versions may be written `V6_0` as well as `6.0`. -/
def versionName (value : String) : String :=
  match value.toList with
  | 'v' :: digits =>
    match digits.reverse with
    | minor :: major => String.ofList (major.reverse ++ ['.', minor])
    | [] => value
  | _ => value

/-- The characters of the segmentation class with this loose name or short name. -/
def segmentNamed? (name : String) (table aliases : List (String × String)) : Option CodePoints :=
  ((lookupLoose name table).or do table.lookup (← lookupLoose name aliases)).map CodePoints.ofText

/-- The characters for which the property named `written` has the value `writtenValue`. -/
def classWithValue? (written writtenValue : String) : Option CodePoints :=
  let name := looseName written
  let value := looseName writtenValue
  if name = "gc" || name = "generalcategory" then categoryNamed? value
  else if name = "sc" || name = "script" then scriptNamed? value
  else if name = "scx" || name = "scriptextensions" then scriptExtensionsNamed? value
  else if name = "age" then upTo? (versionName value) ageText
  else if name = "gcb" || name = "graphemeclusterbreak" then
    segmentNamed? value graphemeBreakText graphemeBreakAliases
  else if name = "wb" || name = "wordbreak" then
    segmentNamed? value wordBreakText wordBreakAliases
  else if name = "sb" || name = "sentencebreak" then
    segmentNamed? value sentenceBreakText sentenceBreakAliases
  else none

/-- Decimal digits. -/
def digits : CodePoints := category "Nd"

/-- White space. -/
def spaces : CodePoints := CodePoints.ofText ((propertyText.lookup "White_Space").getD "")

/-- The characters of words: alphabetic characters, marks, decimal digits, connectors and
joiners. -/
def wordCharacters : CodePoints :=
  CodePoints.ofRanges <|
    (CodePoints.ofText ((propertyText.lookup "Alphabetic").getD "")).ranges ++
    (categories ["Mn", "Mc", "Me", "Nd", "Pc"]).ranges ++
    (CodePoints.ofText ((propertyText.lookup "Join_Control").getD "")).ranges

end Fingerprint.Unicode
