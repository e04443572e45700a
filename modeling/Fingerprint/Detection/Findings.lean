import Fingerprint.Config
import Fingerprint.Detection.Basic
import Fingerprint.Extraction

/-!
Findings of one plugin while it is evaluated, and the detection that they amount to.
-/

namespace Fingerprint

/-- A script matcher that applied, with the version as its expression yielded it. -/
structure ScriptFinding where
  matcher : Nat
  version : Option String
deriving DecidableEq, Repr, Inhabited

/-- What was found so far. -/
structure Findings where
  versions : List String
  names : List String
  indicated : Bool
  script : Option ScriptFinding
  evidence : List Evidence
deriving DecidableEq, Repr, Inhabited

namespace Findings

def empty : Findings := ⟨[], [], false, none, []⟩

/-- Records versions found in a field. -/
def addVersions (findings : Findings) (field : Field) (matcher : Nat) (versions : List String) :
    Findings :=
  { findings with
    versions := versions.foldl pushDistinct findings.versions
    evidence := findings.evidence ++
      versions.map fun version => ⟨.field field .matchers, matcher, some version⟩ }

/-- Records names of components found in a field. -/
def addNames (findings : Findings) (field : Field) (matcher : Nat) (names : List String) :
    Findings :=
  { findings with
    names := names.foldl pushDistinct findings.names
    evidence := findings.evidence ++
      names.map fun name => ⟨.field field .modularMatchers, matcher, some name⟩ }

/-- Records that an indicator matched. -/
def addIndicator (findings : Findings) (field : Field) (matcher : Nat) : Findings :=
  { findings with
    indicated := true
    evidence := findings.evidence ++ [⟨.field field .indicators, matcher, none⟩] }

/-- Records that a script matcher applied; only the first one counts. -/
def setScript (findings : Findings) (finding : ScriptFinding) : Findings :=
  match findings.script with
  | some _ => findings
  | none =>
    { findings with
      script := some finding
      evidence := findings.evidence ++ [⟨.script, finding.matcher, finding.version⟩] }

end Findings

/-- The versions that count, given those found in fields and by scripts. -/
def mergeVersions (fieldVersions scriptVersions : List String) (precedence : ScriptPrecedence) :
    List String :=
  match precedence with
  | .fieldFirst => if fieldVersions.isEmpty then scriptVersions else fieldVersions
  | .scriptFirst => if scriptVersions.isEmpty then fieldVersions else scriptVersions
  | .merge => scriptVersions.foldl pushDistinct fieldVersions

namespace Findings

/-- The version found by a script, if there is anything left of it. -/
def scriptVersions (findings : Findings) : List String :=
  match findings.script.bind (·.version) with
  | none => []
  | some version =>
    let version := normalizeVersion version
    if version.isEmpty then [] else [version]

/-- The detection that findings amount to; there is none if nothing was found. -/
def resolve (findings : Findings) (precedence : ScriptPrecedence) : Option Detection :=
  let versions := mergeVersions findings.versions findings.scriptVersions precedence
  if versions.isEmpty && findings.names.isEmpty && !findings.indicated && findings.script.isNone
  then none
  else some ⟨versions, findings.names, findings.evidence⟩

end Findings

end Fingerprint
