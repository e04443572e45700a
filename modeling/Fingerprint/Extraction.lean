import Fingerprint.Fragment

/-!
From fragments to facts: versions, names, or presence.
-/

namespace Fingerprint

/-- The characters that are cut off at the ends of a version besides white space. -/
def isVersionSeparator (c : Char) : Bool :=
  c = '.' || c = '-' || c = '_' || c = '/' || c = ',' || c = ';' || c = ':'

/-- Whether a character is cut off at the ends of a version. -/
def isVersionEnd (c : Char) : Bool := Text.isBlank c || isVersionSeparator c

/-- A version without white space and separators at its ends; white space is cut off first. -/
def normalizeVersion (version : String) : String :=
  Text.trimBy isVersionEnd (Text.trim version)

/-- Adds a value behind the others unless it is among them. -/
def pushDistinct (values : List String) (value : String) : List String :=
  if values.contains value then values else values ++ [value]

/-- The distinct values that are not empty, in the order of their first occurrence. -/
def distinctNonEmpty (candidates : List String) : List String :=
  (candidates.filter (!·.isEmpty)).foldl pushDistinct []

def Fragment.version? (fragment : Fragment) : Option String :=
  fragment.text.map normalizeVersion

/-- The name of the matcher, or else the text that it found. -/
def Fragment.name? (fragment : Fragment) : Option String :=
  (fragment.name.or fragment.text).map Text.trim

def extractVersions (fragments : List Fragment) : List String :=
  distinctNonEmpty (fragments.filterMap Fragment.version?)

def extractNames (fragments : List Fragment) : List String :=
  distinctNonEmpty (fragments.filterMap Fragment.name?)

/-- A fragment of any kind shows presence. -/
def showsPresence (fragments : List Fragment) : Bool := !fragments.isEmpty

/-- The kinds of facts that can be extracted. -/
inductive Extraction where
  | version
  | name
  | presence
deriving DecidableEq, Repr, Inhabited

/-- Extracted facts. -/
inductive Extracted where
  | versions (values : List String)
  | names (values : List String)
  | presence (present : Bool)
deriving DecidableEq, Repr, Inhabited

def Extraction.run (extraction : Extraction) (fragments : List Fragment) : Extracted :=
  match extraction with
  | .version => .versions (extractVersions fragments)
  | .name => .names (extractNames fragments)
  | .presence => .presence (showsPresence fragments)

namespace Extracted

/-- Whether a value was extracted; presence holds of every value. -/
def contains (extracted : Extracted) (expected : String) : Bool :=
  match extracted with
  | .versions values | .names values => values.contains expected
  | .presence present => present

def isEmpty : Extracted → Bool
  | .versions values | .names values => values.isEmpty
  | .presence present => !present

end Extracted

/-- The fragments that a plugin's matchers of one field and category find in a transaction. -/
def Plugin.fragments (plugin : Plugin) (transaction : Transaction) (field : Field)
    (category : Category) : Except Failure (List Fragment) := do
  let value ← transaction.field field
  return applyAll (plugin.lookup field category) value

/-- The facts that they show. -/
def Plugin.extract (plugin : Plugin) (transaction : Transaction) (field : Field)
    (category : Category) (extraction : Extraction) : Except Failure Extracted := do
  return extraction.run (← plugin.fragments transaction field category)

end Fingerprint
