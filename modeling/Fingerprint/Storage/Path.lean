import Fingerprint.Text.Words

/-!
Paths of files: their components, the extension of the last one, why a path may lead nowhere, and
the types of plugin files.
-/

namespace Fingerprint.Path

/-- Why a path leads nowhere. -/
inductive Fault where
  | missing
  /-- A name, or the end of a directory's path, stands behind a file. -/
  | notDirectory
  /-- The path, or a name in it, has too many bytes. -/
  | tooLong
  /-- The path holds a character that no file name can hold. -/
  | containsNul
deriving DecidableEq, Repr, Inhabited

/-- What is told about a fault besides that the path leads nowhere. -/
def Fault.detail : Fault → String
  | .containsNul => "file name contained an unexpected NUL byte"
  | _ => ""

/-- The most bytes of a name. -/
def longestName : Nat := 255

/-- The most bytes of a path. -/
def longestPath : Nat := 4095

/-- What the characters of a path rule out before anything is looked up. -/
def fault? (path : String) : Option Fault :=
  if path.isEmpty then some .missing
  else if path.contains '\x00' then some .containsNul
  else if longestPath < path.utf8ByteSize then some .tooLong
  else none

/-- The components of a path. Empty ones and dots name nothing of their own. -/
def components (path : String) : List String :=
  (path.splitOn "/").filter fun part => !part.isEmpty && part ≠ "."

/-- Whether a path can lead to directories only: it ends in a slash or in a dot of its own. -/
def namesDirectory (path : String) : Bool :=
  match (path.splitOn "/").getLast? with
  | some last => last.isEmpty || last = "."
  | none => false

/-- The last component, unless it leads to the directory above. -/
def fileName? (path : String) : Option String :=
  (components path).getLast?.filter (· ≠ "..")

/-- The part of a file name behind its last dot; a dot at the front begins no extension. -/
def extensionOf? (name : String) : Option String :=
  match name.toList.reverse.dropWhile (· ≠ '.') with
  | _ :: _ :: _ => some (String.ofList (name.toList.reverse.takeWhile (· ≠ '.')).reverse)
  | _ => none

def extension? (path : String) : Option String := (fileName? path).bind extensionOf?

/-- The path of an entry of a directory. -/
def entry (directory name : String) : String :=
  if directory.isEmpty || directory.endsWith "/" then directory ++ name
  else directory ++ "/" ++ name

end Fingerprint.Path

namespace Fingerprint

/-- The formats of plugin files. -/
inductive FileType where
  | json
  | yaml
deriving DecidableEq, Repr, Inhabited

namespace FileType

/-- The format that an extension stands for, in any case. -/
def ofExtension? (extension : String) : Option FileType :=
  match Text.toLowerAscii extension with
  | "json" => some .json
  | "yml" | "yaml" => some .yaml
  | _ => none

def ofPath? (path : String) : Option FileType := (Path.extension? path).bind ofExtension?

end FileType

end Fingerprint
