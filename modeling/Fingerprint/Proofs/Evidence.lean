import Mathlib
import Fingerprint.Proofs.Compilation
import Fingerprint.Proofs.Observations
import Fingerprint.Proofs.Pass
import Fingerprint.Proofs.Probe

/-!
The evidence of a detection: the records of all observations of its plugin, then the record of the
script matcher that applied. Each record names a matcher that the plugin declares.
-/

set_option autoImplicit false

namespace Fingerprint

/-! ### Records -/

/-- The record of a script matcher that applied. -/
def ScriptFinding.evidence (finding : ScriptFinding) : Evidence :=
  ⟨.script, finding.matcher, finding.version⟩

/-- The script matcher that applied, if the outcome tells one. -/
def ProbeOutcome.finding? : ProbeOutcome → Option ScriptFinding
  | .matched matcher version => some ⟨matcher, version⟩
  | _ => none

theorem ProbeOutcome.finding?_eq_some_iff {outcome : ProbeOutcome} {finding : ScriptFinding} :
    outcome.finding? = some finding ↔ outcome = .matched finding.matcher finding.version := by
  rcases finding with ⟨foundMatcher, foundVersion⟩
  cases outcome with
  | matched matcher version =>
    simp only [finding?, Option.some.injEq, matched.injEq, ScriptFinding.mk.injEq]
  | noMatch => simp only [finding?, reduceCtorEq]
  | scriptFailed fault => simp only [finding?, reduceCtorEq]

/-- Whether the plugin has the matcher that a record names. -/
def Evidence.DeclaredBy (record : Evidence) (plugin : Plugin) : Prop :=
  match record.source with
  | .field field category =>
    field ∈ plugin.fields category ∧ record.matcher < (plugin.lookup field category).length
  | .script => record.matcher < plugin.scriptMatchers.length

theorem Observation.source_of_mem_evidence {observation : Observation} {record : Evidence}
    (member : record ∈ observation.evidence) :
    record.source = .field observation.field observation.category ∧
      record.matcher = observation.matcher := by
  rcases observation with ⟨category, field, matcher, fragments⟩
  cases category with
  | matchers =>
    obtain ⟨_, _, rfl⟩ := List.mem_map.mp member
    exact ⟨rfl, rfl⟩
  | modularMatchers =>
    obtain ⟨_, _, rfl⟩ := List.mem_map.mp member
    exact ⟨rfl, rfl⟩
  | indicators =>
    cases fragments with
    | nil => cases member
    | cons => exact List.mem_singleton.mp member ▸ ⟨rfl, rfl⟩

/-- An observation is what a declared matcher finds in a field that the transaction has. -/
theorem Plugin.matcher_of_mem_observations {plugin : Plugin} {transaction : Transaction}
    {observation : Observation} (member : observation ∈ plugin.observations transaction) :
    observation.field ∈ plugin.fields observation.category ∧
      ∃ value matcher, transaction.field? observation.field = some value ∧
        (plugin.lookup observation.field observation.category)[observation.matcher]? =
          some matcher ∧
        observation.fragments = matcher.apply observation.matcher value := by
  obtain ⟨category, _, inCategory⟩ := List.mem_flatMap.mp member
  obtain ⟨field, declared, inField⟩ := List.mem_flatMap.mp inCategory
  obtain ⟨value, present, made⟩ := List.mem_flatMap.mp inField
  obtain ⟨⟨matcher, index⟩, listed, rfl⟩ := List.mem_map.mp made
  exact ⟨declared, value, matcher, Option.mem_toList.mp present,
    List.mem_zipIdx_iff_getElem?.mp listed, rfl⟩

theorem Plugin.declared_of_mem_evidence {plugin : Plugin} {transaction : Transaction}
    {record : Evidence}
    (member : record ∈ (plugin.observations transaction).flatMap (·.evidence)) :
    record.DeclaredBy plugin := by
  obtain ⟨observation, observed, found⟩ := List.mem_flatMap.mp member
  obtain ⟨source, place⟩ := Observation.source_of_mem_evidence found
  obtain ⟨declared, _, matcher, _, listed, _⟩ := Plugin.matcher_of_mem_observations observed
  rw [Evidence.DeclaredBy, source, place]
  exact ⟨declared, (List.getElem?_eq_some_iff.mp listed).1⟩

/-! ### Findings -/

theorem Findings.resolve_evidence {findings : Findings} {precedence : ScriptPrecedence}
    {detection : Detection} (resolved : findings.resolve precedence = some detection) :
    detection.evidence = findings.evidence := by
  simp only [Findings.resolve] at resolved
  split at resolved
  · cases resolved
  · cases resolved
    rfl

theorem Findings.addProbe_evidence {findings : Findings} (unscripted : findings.script = none)
    (outcome : ProbeOutcome) :
    (findings.addProbe outcome).evidence =
      findings.evidence ++ (outcome.finding?.map ScriptFinding.evidence).toList := by
  cases outcome with
  | matched matcher version =>
    simp only [addProbe, setScript, unscripted]
    rfl
  | noMatch => exact (List.append_nil _).symm
  | scriptFailed fault => exact (List.append_nil _).symm

theorem Findings.addProbe_versions (findings : Findings) (outcome : ProbeOutcome) :
    (findings.addProbe outcome).versions = findings.versions := by
  cases outcome with
  | matched matcher version => cases script : findings.script <;> simp [addProbe, setScript, script]
  | noMatch => rfl
  | scriptFailed fault => rfl

theorem Findings.addProbe_names (findings : Findings) (outcome : ProbeOutcome) :
    (findings.addProbe outcome).names = findings.names := by
  cases outcome with
  | matched matcher version => cases script : findings.script <;> simp [addProbe, setScript, script]
  | noMatch => rfl
  | scriptFailed fault => rfl

/-! ### Detections -/

namespace Detector

/-- Whether the plugin's script matchers are probed in a pass and the probe yields a finding. -/
def ScriptMatches (detector : Detector) (engine : ScriptEngine) (transaction : Transaction)
    (plugin : Plugin) (finding : ScriptFinding) : Prop :=
  plugin.scriptMatchers ≠ [] ∧ detector.blocks transaction ≠ [] ∧
    detector.probe.probe engine (detector.blocks transaction) plugin.scriptMatchers =
      .ok (.matched finding.matcher finding.version)

variable {detector : Detector} {engine : ScriptEngine} {transaction : Transaction}

theorem ScriptMatches.matcher_lt {plugin : Plugin} {finding : ScriptFinding}
    (matched : detector.ScriptMatches engine transaction plugin finding) :
    finding.matcher < plugin.scriptMatchers.length :=
  ScriptProbe.probe_matched matched.2.2

/-- The evidence of an evaluation: what the fields show, then what the probe shows. -/
theorem evaluation_evidence {plugin : Plugin} {detection : Detection}
    (evaluated : (detector.evaluation engine transaction plugin).detection =
      .ok (some detection)) :
    ∃ script : Option ScriptFinding,
      (∀ finding, script = some finding ↔
        detector.ScriptMatches engine transaction plugin finding) ∧
      detection.evidence = (plugin.observations transaction).flatMap (·.evidence) ++
        (script.map ScriptFinding.evidence).toList := by
  rw [evaluation_detection] at evaluated
  split at evaluated
  next probes =>
    obtain ⟨scripted, sources⟩ := probes
    cases probed : detector.probe.probe engine (detector.blocks transaction)
        plugin.scriptMatchers with
    | error failure =>
      rw [probed] at evaluated
      cases evaluated
    | ok outcome =>
      rw [probed] at evaluated
      refine ⟨outcome.finding?, fun finding => ?_, ?_⟩
      · rw [ProbeOutcome.finding?_eq_some_iff, ScriptMatches, probed, Except.ok.injEq]
        exact ⟨fun matched => ⟨scripted, sources, matched⟩, fun matched => matched.2.2⟩
      · have resolved := Findings.resolve_evidence (Except.ok.inj evaluated)
        rw [resolved, Findings.addProbe_evidence (plugin.fieldFindings_script transaction),
          plugin.fieldFindings_evidence]
  next silent =>
    -- Without a probe no script finding is recorded, whatever a probe would have found.
    refine ⟨none, fun finding => ⟨nofun, fun matched => ?_⟩, ?_⟩
    · exact absurd ⟨matched.1, matched.2.1⟩ silent
    · have resolved := Findings.resolve_evidence (Except.ok.inj evaluated)
      rw [resolved, plugin.fieldFindings_evidence]
      exact (List.append_nil _).symm

/-- The evidence of each detection of a pass is what the matchers of its plugin found, in the order
of categories, fields and declaration, then what its script matchers found. -/
theorem detect_evidence {result : DetectionResult}
    (passed : detector.detect engine transaction = .ok result) {name : String}
    {detection : Detection} (reported : result.get? name = some detection) :
    ∃ plugin, detector.catalog.get? name = some plugin ∧
      (∃ script : Option ScriptFinding,
        (∀ finding, script = some finding ↔
          detector.ScriptMatches engine transaction plugin finding) ∧
        detection.evidence = (plugin.observations transaction).flatMap (·.evidence) ++
          (script.map ScriptFinding.evidence).toList) ∧
      ∀ record ∈ detection.evidence, record.DeclaredBy plugin := by
  obtain ⟨plugin, inCatalog, named, evaluated⟩ :=
    detector.reported_of_pass engine transaction passed reported
  obtain ⟨script, scripted, evidence⟩ := evaluation_evidence evaluated
  refine ⟨plugin, Catalog.get?_eq_some_iff.mpr ⟨inCatalog, named⟩, ⟨script, scripted, evidence⟩,
    fun record member => ?_⟩
  rw [evidence] at member
  rcases List.mem_append.mp member with inFields | inScript
  · exact Plugin.declared_of_mem_evidence inFields
  · obtain ⟨finding, found, rfl⟩ := Option.map_eq_some_iff.mp (Option.mem_toList.mp inScript)
    exact ((scripted finding).mp found).matcher_lt

end Detector

namespace DigitPage

/-- An engine for scripts that are single digits, whose value is the digit. -/
def engine : ScriptEngine where
  State := Unit
  Value := String
  now := ⟨0, 0⟩
  create _ := some ()
  seed _ := .ok ()
  evaluate _ digit := (.value digit, ())
  expired _ := false
  kind _ := .printable
  toText _ digit := some digit

def detector : Detector := .standard (.insert .empty (plugin [⟨"4", "5"⟩]))

def detection : Detection :=
  ⟨["1", "2"], [], fieldEvidence ++ [⟨.script, 0, some "5"⟩]⟩

end DigitPage

theorem Detector.detect_evidence_digitPage :
    DigitPage.detector.detect DigitPage.engine DigitPage.transaction =
      .ok ⟨[("digits", DigitPage.detection)], [], []⟩ ∧
    ∃ plugin, DigitPage.detector.catalog.get? "digits" = some plugin ∧
      (∃ script : Option ScriptFinding,
        (∀ finding, script = some finding ↔
          DigitPage.detector.ScriptMatches DigitPage.engine DigitPage.transaction plugin
            finding) ∧
        DigitPage.detection.evidence =
          (plugin.observations DigitPage.transaction).flatMap (·.evidence) ++
            (script.map ScriptFinding.evidence).toList) ∧
      ∀ record ∈ DigitPage.detection.evidence, record.DeclaredBy plugin := by
  have passed : DigitPage.detector.detect DigitPage.engine DigitPage.transaction =
      .ok ⟨[("digits", DigitPage.detection)], [], []⟩ := by
    cbv
  exact ⟨passed, detect_evidence passed rfl⟩

end Fingerprint
