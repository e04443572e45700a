import Fingerprint.Unicode.Property

/-!
The properties of code points that patterns name. Their names are taken as they are written.
-/

namespace Fingerprint.Script.Pattern

open Unicode

/-- The yes-or-no properties with their short names. -/
def binaryProperties : List (String × String) :=
  [ ("ASCII_Hex_Digit", "AHex"), ("Alphabetic", "Alpha"), ("Bidi_Control", "Bidi_C"),
    ("Bidi_Mirrored", "Bidi_M"), ("Case_Ignorable", "CI"), ("Cased", "Cased"),
    ("Changes_When_Casefolded", "CWCF"), ("Changes_When_Casemapped", "CWCM"),
    ("Changes_When_Lowercased", "CWL"), ("Changes_When_NFKC_Casefolded", "CWKCF"),
    ("Changes_When_Titlecased", "CWT"), ("Changes_When_Uppercased", "CWU"), ("Dash", "Dash"),
    ("Default_Ignorable_Code_Point", "DI"), ("Deprecated", "Dep"), ("Diacritic", "Dia"),
    ("Emoji", "Emoji"), ("Emoji_Component", "EComp"), ("Emoji_Modifier", "EMod"),
    ("Emoji_Modifier_Base", "EBase"), ("Emoji_Presentation", "EPres"),
    ("Extended_Pictographic", "ExtPict"), ("Extender", "Ext"), ("Grapheme_Base", "Gr_Base"),
    ("Grapheme_Extend", "Gr_Ext"), ("Hex_Digit", "Hex"), ("IDS_Binary_Operator", "IDSB"),
    ("IDS_Trinary_Operator", "IDST"), ("ID_Continue", "IDC"), ("ID_Start", "IDS"),
    ("Ideographic", "Ideo"), ("Join_Control", "Join_C"), ("Logical_Order_Exception", "LOE"),
    ("Lowercase", "Lower"), ("Math", "Math"), ("Noncharacter_Code_Point", "NChar"),
    ("Pattern_Syntax", "Pat_Syn"), ("Pattern_White_Space", "Pat_WS"), ("Quotation_Mark", "QMark"),
    ("Radical", "Radical"), ("Regional_Indicator", "RI"), ("Sentence_Terminal", "STerm"),
    ("Soft_Dotted", "SD"), ("Terminal_Punctuation", "Term"), ("Unified_Ideograph", "UIdeo"),
    ("Uppercase", "Upper"), ("Variation_Selector", "VS"), ("White_Space", "space"),
    ("XID_Continue", "XIDC"), ("XID_Start", "XIDS") ]

def binaryProperty? (name : String) : Option CodePoints := do
  match name with
  | "Any" => return .all
  | "ASCII" => return .range 0 0x7F
  | "Assigned" => return (category "Cn").complement
  | name =>
    let (long, _) ← binaryProperties.find? fun (long, short) => long = name || short = name
    return .ofText (← propertyText.lookup long)

def generalCategory? (name : String) : Option CodePoints :=
  (categoryNames.find? fun entry => entry.2.1.contains name).map fun entry => categories entry.2.2

/-- The long name of a script. -/
def scriptOf? (name : String) : Option String :=
  if (scriptText.lookup name).isSome then some name else scriptAliases.lookup name

def script? (name : String) : Option CodePoints := do
  return .ofText (← scriptText.lookup (← scriptOf? name))

def scriptExtensions? (name : String) : Option CodePoints := do
  let long ← scriptOf? name
  match scriptExtensionsText.lookup long with
  | some text => return .ofText text
  | none => script? name

/-- The code points that a property name and a value, which may be missing, denote. -/
def property? (name value : String) : Except String CodePoints :=
  let orFail (message : String) (found : Option CodePoints) : Except String CodePoints :=
    match found with
    | some points => .ok points
    | none => .error message
  match name with
  | "Script" | "sc" => orFail "unknown unicode script" (script? value)
  | "Script_Extensions" | "scx" => orFail "unknown unicode script" (scriptExtensions? value)
  | "General_Category" | "gc" => orFail "unknown unicode general category" (generalCategory? value)
  | name =>
    if value.isEmpty then
      orFail "unknown unicode property name" ((generalCategory? name).or (binaryProperty? name))
    else .error "unknown unicode property name"

end Fingerprint.Script.Pattern
