import Fingerprint.Data.Basic

/-!
Writing JSON without white space.
-/

namespace Fingerprint.Json

def hexDigit (value : Nat) : Char := Nat.digitChar value

/-- A character inside a string. -/
def escapeChar (c : Char) : List Char :=
  match c with
  | '"' => ['\\', '"']
  | '\\' => ['\\', '\\']
  | '\n' => ['\\', 'n']
  | '\r' => ['\\', 'r']
  | '\t' => ['\\', 't']
  | '\x08' => ['\\', 'b']
  | '\x0c' => ['\\', 'f']
  | c =>
    if c.toNat < 0x20 then ['\\', 'u', '0', '0', hexDigit (c.toNat / 16), hexDigit (c.toNat % 16)]
    else [c]

/-- A string in quotes. -/
def quote (text : String) : String :=
  String.ofList ('"' :: (text.toList.flatMap escapeChar ++ ['"']))

mutual

/-- The JSON text of a value. Doubles, bytes and unreadable values have none and are written
`null`; a key that is no text is written as if it were empty. -/
def print : Data → String
  | .null | .float _ | .bytes _ | .unreadable => "null"
  | .bool value => if value then "true" else "false"
  | .natural value => toString value
  | .integer value => toString value
  | .text value => quote value
  | .list items => "[" ++ String.intercalate "," (printItems items) ++ "]"
  | .record entries => "\x7b" ++ String.intercalate "," (printEntries entries) ++ "\x7d"

def printItems : List Data → List String
  | [] => []
  | item :: rest => print item :: printItems rest

def printEntries : List (Data × Data) → List String
  | [] => []
  | (key, value) :: rest => (printKey key ++ ":" ++ print value) :: printEntries rest

def printKey : Data → String
  | .text key => quote key
  | _ => quote ""

end

end Fingerprint.Json
