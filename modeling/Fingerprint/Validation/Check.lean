import Fingerprint.Detection.Evaluation
import Fingerprint.Fixture.Basic

/-!
Checks of single examples against a plugin.

An example is accepted if what it expects is among what the plugin finds in its sample.
-/

namespace Fingerprint

def Extracted.display : Extracted → String
  | .versions values => "Versions(" ++ Text.quotedList values ++ ")"
  | .names values => "Names(" ++ Text.quotedList values ++ ")"
  | .presence present => s!"Presence({present})"

/-- Why an example is not accepted. -/
inductive Mismatch where
  | pluginUnknown
  | versionUndeclared
  | versionMissed (field : Field) (expected : String) (found : Extracted)
  | versionDiffers (expected : String) (actual : Option String)
  | nothingFound (expected : List String)
  | indicatorMissed (field : Field)
  | failed (failure : Failure)
deriving DecidableEq, Repr, Inhabited

def Mismatch.reason : Mismatch → String
  | .pluginUnknown => "插件不存在"
  | .versionUndeclared => "matches 样例缺少 version"
  | .versionMissed field expected found =>
    s!"{field.name} 字段未提取到版本 {expected}，结果：" ++ found.display
  | .versionDiffers expected actual =>
    s!"期望版本 {expected}，实际：" ++ Text.quotedOption actual
  | .nothingFound expected => "名称与版本均未提取到：" ++ Text.quotedList expected
  | .indicatorMissed field => s!"{field.name} 字段未命中任何指标"
  | .failed failure => failure.message

/-- The result of a check; an example without a mismatch is accepted. -/
abbrev Check := Except Failure (Option Mismatch)

/-- What is looked for in a field of a sample. -/
structure Search where
  expected : String
  field : Field
  category : Category
  extraction : Extraction
deriving DecidableEq, Repr, Inhabited

namespace Plugin

/-- What is extracted from one field of a sample alone. -/
def extractSample (plugin : Plugin) (sample : Sample) (field : Field) (category : Category)
    (extraction : Extraction) : Except Failure Extracted := do
  plugin.extract (← sample.transaction field) field category extraction

/-- Whether the expected version is extracted from the primary field. -/
def checkMatch (plugin : Plugin) (given : FieldExample) : Check :=
  match given.version with
  | none => .ok (some .versionUndeclared)
  | some expected => do
    let field ← given.sample.primaryField
    let found ← plugin.extractSample given.sample field .matchers .version
    return if found.contains expected then none else some (.versionMissed field expected found)

/-- Whether the probe of the script yields the expected version. -/
def checkScript (plugin : Plugin) (engine : ScriptEngine) (probe : ScriptProbe)
    (given : ScriptExample) : Check := do
  let version ← probe.probeAsserted engine plugin.name [given.script] plugin.scriptMatchers
  return if version = some given.version then none
    else some (.versionDiffers given.version version)

/-- The searches of which one has to succeed: the name of the component in every declared field,
then the version if there is one. -/
def modularSearches (given : ModularExample) : List Search :=
  given.sample.fields.map (⟨given.software, ·, .modularMatchers, .name⟩) ++
    match given.version with
    | none => []
    | some version => given.sample.fields.map (⟨version, ·, .matchers, .version⟩)

/-- Whether one of the searches succeeds. -/
def anySucceeds (plugin : Plugin) (sample : Sample) : List Search → Except Failure Bool
  | [] => .ok false
  | search :: rest => do
    let found ← plugin.extractSample sample search.field search.category search.extraction
    if found.contains search.expected then return true else plugin.anySucceeds sample rest

/-- Whether the component or its version is extracted from a declared field. -/
def checkModular (plugin : Plugin) (given : ModularExample) : Check := do
  if ← plugin.anySucceeds given.sample (modularSearches given) then return none
  else return some (.nothingFound (given.software :: given.version.toList))

/-- Whether an indicator shows presence in the primary field. -/
def checkIndicator (plugin : Plugin) (given : FieldExample) : Check := do
  let field ← given.sample.primaryField
  let found ← plugin.extractSample given.sample field .indicators .presence
  return if found.isEmpty then some (.indicatorMissed field) else none

/-! ### Events -/

/-- The events of an extraction from one field of a sample. -/
def sampleEvents (plugin : Plugin) (sample : Sample) (field : Field) (category : Category) :
    List Event :=
  match (sample.transaction field).toOption.bind (·.field? field) with
  | some value => appliedEvents value (plugin.lookup field category)
  | none => []

def primaryEvents (plugin : Plugin) (sample : Sample) (category : Category) : List Event :=
  match sample.primaryField with
  | .ok field => plugin.sampleEvents sample field category
  | .error _ => []

def matchEvents (plugin : Plugin) (given : FieldExample) : List Event :=
  if given.version.isSome then plugin.primaryEvents given.sample .matchers else []

def indicatorEvents (plugin : Plugin) (given : FieldExample) : List Event :=
  plugin.primaryEvents given.sample .indicators

/-- The events of searches up to the first one that succeeds. -/
def searchEvents (plugin : Plugin) (sample : Sample) : List Search → List Event
  | [] => []
  | search :: rest =>
    plugin.sampleEvents sample search.field search.category ++
      match plugin.extractSample sample search.field search.category search.extraction with
      | .ok found =>
        if found.contains search.expected then [] else plugin.searchEvents sample rest
      | .error _ => []

def modularEvents (plugin : Plugin) (given : ModularExample) : List Event :=
  plugin.searchEvents given.sample (modularSearches given)

end Plugin

/-- The events of a probe to which a matcher of the plugin has to apply. -/
def ProbeReport.assertedEvents (report : ProbeReport) (plugin : String) : List Event :=
  report.events ++
    match report.outcome with
    | .scriptFailed fault => [.assertionFailed plugin fault]
    | _ => []

def Plugin.scriptEvents (plugin : Plugin) (engine : ScriptEngine) (probe : ScriptProbe)
    (given : ScriptExample) : List Event :=
  match probe.report engine [given.script] plugin.scriptMatchers with
  | .ok report => report.assertedEvents plugin.name
  | .error _ => []

end Fingerprint
