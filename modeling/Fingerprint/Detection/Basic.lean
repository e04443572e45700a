import Fingerprint.Field
import Fingerprint.Data.Basic

/-!
What a detection pass reports: for each technology its versions, the names of its components and
the evidence; further the plugins that failed and the fields that were missing.
-/

namespace Fingerprint

/-- Where evidence was found. -/
inductive EvidenceSource where
  | field (field : Field) (category : Category)
  | script
deriving DecidableEq, Repr, Inhabited

/-- A finding: the matcher by its place, and the value that it yielded. -/
structure Evidence where
  source : EvidenceSource
  matcher : Nat
  value : Option String
deriving DecidableEq, Repr, Inhabited

/-- A technology that was found. Without versions it is present in an unknown version. -/
structure Detection where
  versions : List String
  names : List String
  evidence : List Evidence
deriving DecidableEq, Repr, Inhabited

namespace Detection

def isVersionUnknown (detection : Detection) : Bool := detection.versions.isEmpty

/-- The version found first. -/
def primaryVersion (detection : Detection) : Option String := detection.versions.head?

/-- The versions in one line. -/
def display (detection : Detection) : String :=
  if detection.versions.isEmpty then "present" else String.intercalate ", " detection.versions

def Evidence.toData (evidence : Evidence) : Data :=
  let source : Data := match evidence.source with
    | .field field category =>
      .object [("kind", .text "field"), ("field", .text field.name),
        ("category", .text category.name)]
    | .script => .object [("kind", .text "script")]
  .object <|
    [("source", source), ("matcher", .natural evidence.matcher)] ++
    (evidence.value.map fun value => ("value", Data.text value)).toList

def toData (detection : Detection) : Data :=
  .object <|
    [("versions", .list (detection.versions.map .text))] ++
    (if detection.names.isEmpty then []
      else [("names", .list (detection.names.map .text))]) ++
    [("evidence", .list (detection.evidence.map Evidence.toData))]

end Detection

/-- A plugin that failed during a pass. -/
structure PluginFault where
  plugin : String
  message : String
deriving DecidableEq, Repr, Inhabited

/-- A field that a plugin has matchers for and the transaction lacks. -/
structure MissingField where
  plugin : String
  field : Field
deriving DecidableEq, Repr, Inhabited

def MissingField.display (missing : MissingField) : String :=
  s!"插件 {missing.plugin} 需要的字段缺失：{missing.field.name}"

/-- The result of a pass, by plugin in ascending order of names. -/
structure DetectionResult where
  detections : List (String × Detection)
  faults : List PluginFault
  missingFields : List MissingField
deriving DecidableEq, Repr, Inhabited

namespace DetectionResult

def get? (result : DetectionResult) (plugin : String) : Option Detection :=
  result.detections.lookup plugin

def contains (result : DetectionResult) (plugin : String) : Bool := (result.get? plugin).isSome

def size (result : DetectionResult) : Nat := result.detections.length

/-- The fields that a plugin missed. -/
def missingFieldsOf (result : DetectionResult) (plugin : String) : List Field :=
  (result.missingFields.filter (·.plugin = plugin)).map (·.field)

def toData (result : DetectionResult) : Data :=
  let list (key : String) (items : List Data) : List (String × Data) :=
    if items.isEmpty then [] else [(key, .list items)]
  .object <|
    [("detections", .object (result.detections.map fun (name, detection) =>
      (name, detection.toData)))] ++
    list "faults" (result.faults.map fun fault =>
      .object [("plugin", .text fault.plugin), ("message", .text fault.message)]) ++
    list "missing_fields" (result.missingFields.map fun missing =>
      .object [("plugin", .text missing.plugin), ("field", .text missing.field.name)])

end DetectionResult

end Fingerprint
