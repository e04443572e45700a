import Fingerprint.Detection.Findings
import Fingerprint.Event

/-!
The evaluation of one plugin: what its matchers find in the fields of a transaction, and what its
script matchers find behind the scripts of the page.

A field that the transaction lacks is reported and leaves the other fields alone.
-/

namespace Fingerprint

namespace Findings

/-- Adds what one matcher found. -/
def addFragments (findings : Findings) (category : Category) (field : Field) (matcher : Nat)
    (fragments : List Fragment) : Findings :=
  match category with
  | .matchers => findings.addVersions field matcher (extractVersions fragments)
  | .modularMatchers => findings.addNames field matcher (extractNames fragments)
  | .indicators => if showsPresence fragments then findings.addIndicator field matcher else findings

/-- Adds what matchers find that are numbered from `index` on. -/
def addMatchers (findings : Findings) (category : Category) (field : Field) (value : FieldValue)
    (index : Nat) : List Plugin.Matcher → Findings
  | [] => findings
  | matcher :: rest =>
    (findings.addFragments category field index (matcher.apply index value)).addMatchers
      category field value (index + 1) rest

/-- Adds what a probe found. -/
def addProbe (findings : Findings) : ProbeOutcome → Findings
  | .matched matcher version => findings.setScript ⟨matcher, version⟩
  | _ => findings

end Findings

namespace Plugin

/-- The categories and fields with matchers, in the order in which they are visited. -/
def declared (plugin : Plugin) : List (Category × Field) :=
  Category.all.flatMap fun category => (plugin.fields category).map (category, ·)

/-- The fields with matchers that a transaction lacks, each once. -/
def missingFields (plugin : Plugin) (transaction : Transaction) : List Field :=
  ((plugin.declared.map (·.2)).filter fun field => !transaction.hasField field).eraseDups

/-- Adds what the matchers of a category and field find. -/
def addField (plugin : Plugin) (transaction : Transaction) (findings : Findings)
    (place : Category × Field) : Findings :=
  match transaction.field? place.2 with
  | none => findings
  | some value => findings.addMatchers place.1 place.2 value 0 (plugin.lookup place.2 place.1)

/-- What the matchers find in the fields. -/
def fieldFindings (plugin : Plugin) (transaction : Transaction) : Findings :=
  plugin.declared.foldl (plugin.addField transaction) .empty

/-- The report of the probe, if there is anything to probe. -/
def probe? (plugin : Plugin) (engine : ScriptEngine) (probe : ScriptProbe) (blocks : List String) :
    Except Failure (Option ProbeReport) :=
  if plugin.hasScriptMatchers && !blocks.isEmpty then
    (probe.report engine blocks plugin.scriptMatchers).map some
  else .ok none

/-! ### Events -/

def appliedEvents (value : FieldValue) (matchers : List Matcher) : List Event :=
  matchers.filterMap fun matcher =>
    match (matcher.apply 0 value).length with
    | 0 => none
    | count => some (.matcherApplied matcher.describe count)

def fieldEvents (plugin : Plugin) (transaction : Transaction) : List Event :=
  plugin.declared.flatMap fun (category, field) =>
    match transaction.field? field with
    | none => [.fieldMissing ⟨plugin.name, field⟩]
    | some value => appliedEvents value (plugin.lookup field category)

end Plugin

def ProbeReport.events (report : ProbeReport) : List Event :=
  if report.evaluated then report.notes.map .probeNoted ++ [.probeFinished report.outcome] else []

/-- The outcome of one plugin in a pass. -/
structure Evaluation where
  plugin : String
  detection : Except Failure (Option Detection)
  missing : List Field
  events : List Event

namespace Plugin

def probeEvents (plugin : Plugin) (report : ProbeReport) : List Event :=
  report.events ++
    match report.outcome with
    | .scriptFailed fault => [.scriptsUseless plugin.name fault]
    | _ => []

/-- Evaluates a plugin. The version precedence decides between fields and scripts. -/
def evaluate (plugin : Plugin) (engine : ScriptEngine) (config : Config)
    (transaction : Transaction) (blocks : List String) : Evaluation :=
  let report := plugin.probe? engine ⟨config.scriptLimits⟩ blocks
  let findings := plugin.fieldFindings transaction
  { plugin := plugin.name
    detection := report.map fun report? =>
      let findings := match report? with
        | some report => findings.addProbe report.outcome
        | none => findings
      findings.resolve config.scriptPrecedence
    missing := plugin.missingFields transaction
    events := plugin.fieldEvents transaction ++
      match report with
      | .ok (some report) => plugin.probeEvents report
      | _ => [] }

end Plugin

end Fingerprint
