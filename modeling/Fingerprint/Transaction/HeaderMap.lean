import Fingerprint.Event
import Fingerprint.Transaction.Basic

/-!
Headers by name, each with its values as bytes.

Names are kept in lower case and in the order in which they were first entered; the values of a name
follow each other.
-/

namespace Fingerprint

/-- A header: its first value, and the other values in their order. -/
structure HeaderEntry where
  name : String
  value : List UInt8
  others : List (List UInt8)
deriving DecidableEq, Repr, Inhabited

/-- Enters one more value, behind the values so far or instead of them. -/
def HeaderEntry.enter (entry : HeaderEntry) (value : List UInt8) (behind : Bool) : HeaderEntry :=
  if behind then { entry with others := entry.others ++ [value] }
  else { entry with value := value, others := [] }

@[simp] theorem HeaderEntry.enter_name (entry : HeaderEntry) (value : List UInt8) (behind : Bool) :
    (entry.enter value behind).name = entry.name := by
  cases behind <;> rfl

/-- Headers, of which each name has one entry. -/
structure HeaderMap where
  entries : List HeaderEntry
  lower : ∀ name ∈ entries.map (·.name), Text.toLowerAscii name = name
  distinct : (entries.map (·.name)).Nodup
deriving DecidableEq, Repr

namespace HeaderMap

def empty : HeaderMap := ⟨[], nofun, .nil⟩

instance : Inhabited HeaderMap := ⟨empty⟩

/-- Enters a value at the entry of its name; a new entry is put behind the others. -/
def enter (name : String) (value : List UInt8) (behind : Bool) :
    List HeaderEntry → List HeaderEntry
  | [] => [⟨name, value, []⟩]
  | entry :: rest =>
    if entry.name = name then entry.enter value behind :: rest
    else entry :: enter name value behind rest

/-- A name is entered once. -/
theorem names_enter (name : String) (value : List UInt8) (behind : Bool)
    (entries : List HeaderEntry) :
    (enter name value behind entries).map (·.name) =
      if name ∈ entries.map (·.name) then entries.map (·.name)
      else entries.map (·.name) ++ [name] := by
  induction entries with
  | nil => rfl
  | cons entry rest ih =>
    rw [enter]
    by_cases same : entry.name = name
    · simp [same]
    · by_cases known : name ∈ rest.map (·.name) <;> simp_all [eq_comm]

/-- Enters a value under a name in any case. -/
def entering (map : HeaderMap) (name : String) (value : List UInt8) (behind : Bool) : HeaderMap where
  entries := enter (Text.toLowerAscii name) value behind map.entries
  lower := by
    intro other member
    rw [names_enter] at member
    split at member
    · exact map.lower other member
    · rcases List.mem_append.mp member with before | new
      · exact map.lower other before
      · rw [List.mem_singleton.mp new, Text.toLowerAscii_toLowerAscii]
  distinct := by
    rw [names_enter]
    split
    · exact map.distinct
    next new =>
      refine List.nodup_append.mpr ⟨map.distinct, List.pairwise_singleton _ _, ?_⟩
      intro other before another last same
      rw [List.mem_singleton.mp last] at same
      exact new (same ▸ before)

/-- Replaces all values of a name. -/
def insert (map : HeaderMap) (name : String) (value : List UInt8) : HeaderMap :=
  map.entering name value false

/-- Adds a value behind the others of its name. -/
def append (map : HeaderMap) (name : String) (value : List UInt8) : HeaderMap :=
  map.entering name value true

/-- The first value of a name, in any case. -/
def first? (map : HeaderMap) (name : String) : Option (List UInt8) :=
  (map.entries.find? (·.name = Text.toLowerAscii name)).map (·.value)

/-- The names and values in order. -/
def toList (map : HeaderMap) : List (String × List UInt8) :=
  map.entries.flatMap fun entry => (entry.value :: entry.others).map (entry.name, ·)

/-- The number of values. -/
def size (map : HeaderMap) : Nat := map.toList.length

/-! ### Values as texts -/

/-- Whether a byte is a visible ASCII character, a space or a tab. -/
def isVisible (byte : UInt8) : Bool := (32 ≤ byte.toNat && byte.toNat < 127) || byte.toNat = 9

/-- The text of a value all of whose bytes are visible. -/
def visibleText? (value : List UInt8) : Option String :=
  if value.all isVisible then some (String.ofList (value.map fun byte => Char.ofNat byte.toNat))
  else none

/-- The text of a value; bytes that are no text are replaced. -/
def textOf (value : List UInt8) : String :=
  match visibleText? value with
  | some text => text
  | none => Text.decodeLossy value

/-! ### Taking headers over -/

/-- The most headers that a transaction takes over. -/
def pairLimit : Nat := 1000

/-- Takes headers over behind those taken so far, and stops with a warning where there are as many
as may be. -/
def takeOver (taken : List (String × String)) :
    List (String × List UInt8) → List (String × String) × List Event
  | [] => (taken, [])
  | (name, value) :: rest =>
    if pairLimit ≤ taken.length then (taken, [.headersCut pairLimit])
    else takeOver (taken ++ [(name, textOf value)]) rest

/-- The headers that a transaction takes over, as texts. -/
def toPairs (map : HeaderMap) : List (String × String) := (takeOver [] map.toList).1

/-- The events of taking headers over. -/
def events (map : HeaderMap) : List Event :=
  (takeOver [] map.toList).2 ++ [.headersRead map.toPairs.length]

end HeaderMap

/-- The transaction with these headers. -/
def Transaction.withHeaderMap (transaction : Transaction) (map : HeaderMap) : Transaction :=
  transaction.withHeaders map.toPairs

end Fingerprint
