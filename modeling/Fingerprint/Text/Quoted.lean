import Fingerprint.Unicode.Property

/-!
Texts between double quotes, as reports show them.

Quotes, backslashes and the control characters of a line are escaped by a letter; every other
character that cannot be seen by itself is written as its code.
-/

namespace Fingerprint.Text

/-- The categories of characters that show nothing by themselves. -/
def invisible : Unicode.CodePoints.Index :=
  (Unicode.categories ["Cc", "Cf", "Cs", "Co", "Cn", "Zl", "Zp", "Zs"]).index

/-- The characters that attach to the one before them. -/
def attaching : Unicode.CodePoints.Index :=
  ((Unicode.propertyNamed? "graphemeextend").getD .empty).index

/-- Whether a character is written as it is. -/
def isPlain (c : Char) : Bool :=
  if c.toNat < 127 then 32 ≤ c.toNat
  else !invisible.contains c.toNat && !attaching.contains c.toNat

/-- The escape of a character inside quotes. -/
def escape (c : Char) : List Char :=
  match c with
  | '\x00' => ['\\', '0']
  | '\t' => ['\\', 't']
  | '\r' => ['\\', 'r']
  | '\n' => ['\\', 'n']
  | '"' => ['\\', '"']
  | '\\' => ['\\', '\\']
  | c =>
    if isPlain c then [c]
    else ['\\', 'u', '\x7b'] ++ Nat.toDigits 16 c.toNat ++ ['\x7d']

/-- The text between quotes. -/
def quoted (text : String) : String :=
  "\"" ++ String.ofList (text.toList.flatMap escape) ++ "\""

/-- Texts between quotes, in brackets. -/
def quotedList (texts : List String) : String :=
  "[" ++ String.intercalate ", " (texts.map quoted) ++ "]"

/-- A text that may be absent. -/
def quotedOption : Option String → String
  | some text => "Some(" ++ quoted text ++ ")"
  | none => "None"

end Fingerprint.Text
