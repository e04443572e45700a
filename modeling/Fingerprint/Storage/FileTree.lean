import Fingerprint.Failure
import Fingerprint.Storage.Path

/-!
Files and directories below one root.

A path is looked up by its components; a component of two dots leads back to the directory above.
Operations that change the tree return the new one.

There is nothing but files and directories. Links, devices and other special files are left out, and
so are permissions and names that are not UTF-8: what is written to a file can be read from it.
-/

namespace Fingerprint

/-- What stands at a path. -/
inductive FileEntry where
  | file (bytes : List UInt8)
  | directory
deriving DecidableEq, Repr, Inhabited

/-- A place below the root by the names that lead to it. -/
abbrev Place := List String

/-- The entries below a root. -/
structure FileTree where
  /-- The name under which paths reach the root. -/
  root : String
  /-- Whether the root is also where paths begin that do not name it. -/
  current : Bool
  /-- The entries by their places, each place once and each behind its directory. -/
  entries : List (Place × FileEntry)
deriving DecidableEq, Repr, Inhabited

namespace FileTree

/-- A root without entries. -/
def empty (root : String) (current : Bool) : FileTree := ⟨root, current, []⟩

def entry? (tree : FileTree) (place : Place) : Option FileEntry :=
  if place.isEmpty then some .directory else tree.entries.lookup place

def isDirectory (tree : FileTree) (place : Place) : Bool := tree.entry? place = some .directory

/-- The place that components lead to from a place. The last of them need not be there. -/
def follow (tree : FileTree) (place : Place) : List String → Except Path.Fault Place
  | [] => .ok place
  | name :: rest =>
    match tree.entry? place with
    | none => .error .missing
    | some (.file _) => .error .notDirectory
    | some .directory =>
      if name = ".." then
        if place.isEmpty then .error .missing else tree.follow place.dropLast rest
      else if Path.longestName < name.utf8ByteSize then .error .tooLong
      else tree.follow (place ++ [name]) rest

/-- The components of a path below the root. -/
def below (tree : FileTree) (path : String) : Except Path.Fault (List String) :=
  match Path.fault? path with
  | some fault => .error fault
  | none =>
    let parts := Path.components path
    if parts.head? = some tree.root then .ok (parts.drop 1)
    else if tree.current && !path.startsWith "/" then .ok parts
    else .error .missing

/-- The place that a path denotes. Nothing needs to stand there. -/
def locate (tree : FileTree) (path : String) : Except Path.Fault Place := do
  tree.follow [] (← tree.below path)

/-- What a path leads to, and its place. -/
def lookup (tree : FileTree) (path : String) : Except Path.Fault (Place × FileEntry) := do
  let place ← tree.locate path
  match tree.entry? place with
  | none => throw .missing
  | some (.file bytes) =>
    if Path.namesDirectory path then throw .notDirectory else return (place, .file bytes)
  | some .directory => return (place, .directory)

/-- The contents of a file. -/
def read (tree : FileTree) (path : String) : Except Failure (List UInt8) :=
  match tree.lookup path with
  | .ok (_, .file bytes) => .ok bytes
  | _ => .error .systemRefused

def setEntry (tree : FileTree) (place : Place) (entry : FileEntry) : FileTree :=
  if (tree.entries.lookup place).isSome then
    { tree with
      entries := tree.entries.map fun old => if old.1 = place then (place, entry) else old }
  else { tree with entries := tree.entries ++ [(place, entry)] }

/-- Writes a file into a directory that is there. -/
def write (tree : FileTree) (path : String) (bytes : List UInt8) : Except Path.Fault FileTree := do
  let place ← tree.locate path
  if !tree.isDirectory place.dropLast then throw .missing
  else if tree.isDirectory place || Path.namesDirectory path then throw .notDirectory
  else return tree.setEntry place (.file bytes)

/-- Makes the directories along components, from the directory `made` on. -/
def makePlaces (tree : FileTree) (made : Place) : List String → Except Path.Fault FileTree
  | [] => .ok tree
  | ".." :: rest => if made.isEmpty then .error .missing else tree.makePlaces made.dropLast rest
  | name :: rest =>
    let place := made ++ [name]
    match tree.entry? place with
    | some (.file _) => .error .notDirectory
    | some .directory => tree.makePlaces place rest
    | none =>
      if Path.longestName < name.utf8ByteSize then .error .tooLong
      else (tree.setEntry place .directory).makePlaces place rest

/-- Makes a directory and those above it. -/
def makeDirectory (tree : FileTree) (path : String) : Except Failure FileTree :=
  ((tree.below path).bind (tree.makePlaces [])).mapError fun _ => .systemRefused

/-- Removes an entry with everything below it. -/
def remove (tree : FileTree) (path : String) : Except Failure FileTree :=
  match tree.lookup path with
  | .error _ => .error .systemRefused
  | .ok (place, _) =>
    if place.isEmpty then .error .systemRefused
    else .ok { tree with entries := tree.entries.filter fun old => !place.isPrefixOf old.1 }

/-- The names in a directory with what they stand for, in ascending order. -/
def list (tree : FileTree) (place : Place) : List (String × FileEntry) :=
  let inside := tree.entries.filterMap fun (other, entry) =>
    if other.dropLast = place then other.getLast?.map (·, entry) else none
  inside.mergeSort fun left right => left.1 ≤ right.1

end FileTree

end Fingerprint
