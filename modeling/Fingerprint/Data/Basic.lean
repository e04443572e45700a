import Fingerprint.Text.Utf8

/-!
Values that describe themselves: what a document of any of the supported formats denotes, before
it is read as a plugin, a transaction or a fixture.

A structure is written as a record with its field names as keys, in any order and with other keys
that are passed over, or as a list of its fields in their order, where fields at the end may be
left out.
-/

namespace Fingerprint

/-- A value of a document. -/
inductive Data where
  | null
  | bool (value : Bool)
  /-- An integer from 0 to below 2^64, written as one that has no sign. -/
  | natural (value : Nat)
  /-- An integer from -2^63 to below 2^63, written as one that may have a sign. -/
  | integer (value : Int)
  /-- A double by its bits. -/
  | float (bits : UInt64)
  | text (value : String)
  | bytes (value : List UInt8)
  | list (items : List Data)
  | record (entries : List (Data × Data))
  /-- A value that is written correctly and denotes nothing, such as half a surrogate pair. It may
  stand wherever a value is passed over. -/
  | unreadable
deriving Repr, Inhabited

namespace Data

mutual

/-- Whether no part of the value is unreadable and at most `depth` lists and records lie within
each other. -/
def readable (depth : Nat) : Data → Bool
  | .unreadable => false
  | .list items => depth != 0 && readableItems (depth - 1) items
  | .record entries => depth != 0 && readableEntries (depth - 1) entries
  | _ => true

def readableItems (depth : Nat) : List Data → Bool
  | [] => true
  | item :: rest => item.readable depth && readableItems depth rest

def readableEntries (depth : Nat) : List (Data × Data) → Bool
  | [] => true
  | (key, value) :: rest => key.readable depth && value.readable depth && readableEntries depth rest

end

/-- The value of the first entry with a text as key. -/
def get? (data : Data) (key : String) : Option Data :=
  match data with
  | .record entries => (entries.find? fun entry =>
      match entry.1 with
      | .text name => name = key
      | _ => false).map (·.2)
  | _ => none

/-- Whether both keys are the same text. -/
def sameText : Data → Data → Bool
  | .text first, .text second => first = second
  | _, _ => false

mutual

/-- The value as a map keeps it: of the entries of a record with the same text as key the last one
stays. -/
def collapsed : Data → Data
  | .list items => .list (collapsedItems items)
  | .record entries => .record (collapsedEntries entries)
  | data => data

def collapsedItems : List Data → List Data
  | [] => []
  | item :: rest => item.collapsed :: collapsedItems rest

def collapsedEntries : List (Data × Data) → List (Data × Data)
  | [] => []
  | (key, value) :: rest =>
    if rest.any (sameText key ·.1) then collapsedEntries rest
    else (key, value.collapsed) :: collapsedEntries rest

end

/-- A record with texts as keys. -/
def object (entries : List (String × Data)) : Data :=
  .record (entries.map fun (key, value) => (.text key, value))

/-! ### Structures -/

/-- The fields found for a structure: for each, its value if it is written. -/
abbrev Found := List (Option Data)

/-- Which of `count` fields a key names: `none` if the key cannot name one, `some none` if it names
no field of the structure. A number without a sign names the field at its place. -/
def fieldIndex? (names : List String) : Data → Option (Option Nat)
  | .text key => some (names.idxOf? key)
  | .bytes key => some ((Text.decode? key).bind names.idxOf?)
  | .natural index => some (if index < names.length then some index else none)
  | _ => none

/-- Enters the entries of a record. A field that is written twice is an error. -/
def findEntries? (names : List String) : List (Data × Data) → Found → Option Found
  | [], found => some found
  | (key, value) :: rest, found =>
    match fieldIndex? names key with
    | none => none
    | some none => findEntries? names rest found
    | some (some index) =>
      match found[index]? with
      | some none => findEntries? names rest (found.set index (some value))
      | _ => none

/-- The fields of a structure. -/
def fields? (names : List String) : Data → Option Found
  | .record entries => findEntries? names entries (List.replicate names.length none)
  | .list items =>
    if names.length < items.length then none
    else some (items.map some ++ List.replicate (names.length - items.length) none)
  | _ => none

def text? : Data → Option String
  | .text value => some value
  | .bytes value => Text.decode? value
  | _ => none

def natural64? : Data → Option UInt64
  | .natural value => if value < 1 <<< 64 then some (UInt64.ofNat value) else none
  | .integer value => if 0 ≤ value then some (UInt64.ofNat value.toNat) else none
  | _ => none

/-- Reads each item of a list. -/
def listOf? {α : Type} (read : Data → Option α) : Data → Option (List α)
  | .list items => items.mapM read
  | _ => none

/-- Reads a value that may be null. -/
def optionOf? {α : Type} (read : Data → Option α) : Data → Option (Option α)
  | .null => some none
  | data => (read data).map some

/-- A field that has to be written. -/
def Found.required {α : Type} (found : Found) (index : Nat) (read : Data → Option α) : Option α :=
  (found[index]?).join.bind read

/-- A field with a default. -/
def Found.optional {α : Type} (found : Found) (index : Nat) (missing : α)
    (read : Data → Option α) : Option α :=
  match (found[index]?).join with
  | none => some missing
  | some data => read data

end Data

end Fingerprint
