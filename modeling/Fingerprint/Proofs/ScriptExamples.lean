import Fingerprint.Proofs.Evidence
import Fingerprint.Proofs.Pipeline
import Fingerprint.Validation.Check

/-!
Checks of script examples against detection.

The check compares the version of an example with the one that the probe yields, and detection cuts
white space and separators off that version before it reports it. So an accepted example is always
detected, but with its own version only if there is nothing to cut off.
-/

set_option autoImplicit false

namespace Fingerprint

/-! ### Normalized versions -/

/-- A version is among those that count for it exactly if it is normalized itself: versions found in
fields, which count if nothing of it is left, never hold it. -/
theorem mem_scriptFirst_iff {version : String} {fragments : List Fragment} :
    (version ∈ if normalizeVersion version = "" then extractVersions fragments
      else [normalizeVersion version]) ↔ normalizeVersion version = version ∧ version ≠ "" := by
  split
  next nothing =>
    refine ⟨normalized_of_mem_extractVersions, fun ⟨normalized, inhabited⟩ => ?_⟩
    exact absurd (normalized.symm.trans nothing) inhabited
  next something =>
    rw [List.mem_singleton, eq_comm]
    refine ⟨fun normalized => ⟨normalized, ?_⟩, And.left⟩
    exact normalized ▸ something

/-! ### Script responses -/

/-- A body with the content type of a script is probed as it is. -/
theorem Transaction.scriptSources_of_script {transaction : Transaction} {script : String}
    (body : transaction.body = some script)
    (type : transaction.header? "content-type" = some "application/javascript") {maxBytes : Nat}
    (visible : ¬ Text.isBlankText script) (short : Text.byteCount script ≤ maxBytes) :
    transaction.scriptSources maxBytes = [script] := by
  have kept : ¬ skipsBody maxBytes script := by
    simp only [skipsBody, Bool.or_eq_true, visible, decide_eq_true_eq, Nat.not_lt.mpr short,
      or_self, not_false_eq_true, Bool.false_eq_true]
  have isScript : transaction.isScriptResponse := by
    have mentioned : Text.occursIn "javascript" (Text.toLowerAscii "application/javascript") := by
      decide
    simp only [isScriptResponse, type, Option.any_some, mentioned, Bool.true_or]
  rw [scriptSources, body]
  simp only [kept, isScript, Bool.false_eq_true, ↓reduceIte]

/-! ### Accepted examples -/

/-- An accepted example is one whose version the probe of its script yields. -/
theorem Plugin.checkScript_eq_ok_none_iff {plugin : Plugin} {engine : ScriptEngine}
    {probe : ScriptProbe} {given : ScriptExample} :
    plugin.checkScript engine probe given = .ok none ↔
      ∃ index, probe.probe engine [given.script] plugin.scriptMatchers =
        .ok (.matched index (some given.version)) := by
  cases probed : probe.probe engine [given.script] plugin.scriptMatchers with
  | error failure => simp [checkScript, ScriptProbe.probeAsserted, probed, bind, Except.bind]
  | ok outcome =>
    cases outcome with
    | matched index version =>
      simp [checkScript, ScriptProbe.probeAsserted, ScriptProbe.asserted, probed, bind,
        Except.bind, pure, Except.pure]
    | noMatch =>
      simp [checkScript, ScriptProbe.probeAsserted, ScriptProbe.asserted, probed, bind, Except.bind]
    | scriptFailed fault =>
      simp [checkScript, ScriptProbe.probeAsserted, ScriptProbe.asserted, probed, bind, Except.bind]

/-- The versions that count if a script yields one and scripts come first: the normalized version of
the script if there is anything left of it, else those found in fields. -/
theorem Findings.resolve_of_script_first {findings : Findings} (unscripted : findings.script = none)
    (index : Nat) (version : String) :
    (findings.addProbe (.matched index (some version))).resolve .scriptFirst =
      some ⟨if normalizeVersion version = "" then findings.versions
        else [normalizeVersion version], findings.names,
        findings.evidence ++ [⟨.script, index, some version⟩]⟩ := by
  simp only [addProbe, setScript, unscripted, resolve, scriptVersions, Option.bind_some,
    String.isEmpty_iff, Option.isNone_some, Bool.and_false, Bool.false_eq_true, ↓reduceIte]
  by_cases empty : normalizeVersion version = ""
  · simp only [empty, ↓reduceIte, mergeVersions, List.isEmpty_nil]
  · simp only [empty, ↓reduceIte, mergeVersions, List.isEmpty_cons, Bool.false_eq_true]

/-- The detection of a plugin whose probe yields a version, if scripts come first. -/
theorem Detector.evaluation_of_script_first {detector : Detector} {engine : ScriptEngine}
    {plugin : Plugin} {transaction : Transaction} {scripts : List String} {index : Nat}
    {version : String} (scriptFirst : detector.config.scriptPrecedence = .scriptFirst)
    (blocks : detector.blocks transaction = scripts) (inhabited : scripts ≠ [])
    (probed : detector.probe.probe engine scripts plugin.scriptMatchers =
      .ok (.matched index (some version))) :
    ∃ detection,
      (detector.evaluation engine transaction plugin).detection = .ok (some detection) ∧
      detection.versions = (if normalizeVersion version = "" then
          extractVersions (Observation.fragmentsOf .matchers (plugin.observations transaction))
        else [normalizeVersion version]) ∧
      ⟨.script, index, some version⟩ ∈ detection.evidence := by
  have scripted : plugin.scriptMatchers ≠ [] := by
    intro empty
    have known := ScriptProbe.probe_matched probed
    rw [empty] at known
    exact absurd known (Nat.not_lt_zero index)
  have resolved := Findings.resolve_of_script_first (plugin.fieldFindings_script transaction) index
    version
  rw [plugin.fieldFindings_versions] at resolved
  have evaluated := detector.evaluation_detection engine transaction plugin
  rw [blocks, if_pos ⟨scripted, inhabited⟩, probed, scriptFirst] at evaluated
  refine ⟨_, evaluated.trans (congrArg Except.ok resolved), ?_, ?_⟩
  · dsimp only
  · exact List.mem_append_right _ (List.mem_singleton_self _)

/-- A plugin is detected in the script of an accepted example, and the version of the example is
recorded as evidence. It is reported as it stands if it neither begins nor ends with white space or
a separator, and otherwise what is left between them; if nothing is left, the versions found in
fields are reported. -/
theorem Detector.detectPlugin_of_accepted_script {detector : Detector} {engine : ScriptEngine}
    {plugin : Plugin} {given : ScriptExample} {transaction : Transaction}
    (scriptFirst : detector.config.scriptPrecedence = .scriptFirst)
    (body : transaction.body = some given.script)
    (type : transaction.header? "content-type" = some "application/javascript")
    (visible : ¬ Text.isBlankText given.script)
    (short : Text.byteCount given.script ≤ detector.config.scriptLimits.maxScriptBytes)
    (accepted : plugin.checkScript engine detector.probe given = .ok none) :
    ∃ result detection, detector.detectPlugin engine transaction plugin = .ok result ∧
      result.get? plugin.name = some detection ∧
      (∃ index, ⟨.script, index, some given.version⟩ ∈ detection.evidence) ∧
      detection.versions =
        (if normalizeVersion given.version = "" then
          extractVersions (Observation.fragmentsOf .matchers (plugin.observations transaction))
        else [normalizeVersion given.version]) ∧
      (given.version ∈ detection.versions ↔
        normalizeVersion given.version = given.version ∧ given.version ≠ "") := by
  obtain ⟨index, probed⟩ := Plugin.checkScript_eq_ok_none_iff.mp accepted
  have blocks : detector.blocks transaction = [given.script] :=
    transaction.scriptSources_of_script body type visible short
  obtain ⟨detection, evaluated, versions, recorded⟩ :=
    evaluation_of_script_first scriptFirst blocks (List.cons_ne_nil _ _) probed
  have passed := detector.pass_singleton_of_ok engine transaction evaluated
  have reported := DetectionResult.get?_ofEvaluations_singleton evaluated plugin.name
  refine ⟨_, detection, passed, reported.trans (if_pos rfl), ⟨index, recorded⟩, versions, ?_⟩
  rw [versions]
  exact mem_scriptFirst_iff

/-! ### Examples -/

namespace QuotedScript

/-- An engine for scripts that are texts in quotes, whose value is the text. -/
def engine : ScriptEngine where
  State := Unit
  Value := String
  now := ⟨0, 0⟩
  create _ := some ()
  seed _ := .ok ()
  evaluate _ script := (.value (String.ofList (script.toList.drop 1).dropLast), ())
  expired _ := false
  kind _ := .printable
  toText _ text := some text

/-- Scripts come first. -/
def detector : Detector := ⟨.empty, { Config.standard with scriptPrecedence := .scriptFirst }⟩

/-- Finds a version behind every script. -/
def plugin (version : String) : Plugin :=
  ⟨"lib", none, [], .empty, [⟨"'lib'", version⟩]⟩

def transaction : Transaction :=
  ⟨none, some "'lib'", some [("Content-Type", "application/javascript")]⟩

end QuotedScript

theorem Detector.detectPlugin_of_accepted_script_quoted :
    let detector := QuotedScript.detector
    let plugin := QuotedScript.plugin "'1.0'"
    detector.config.scriptPrecedence = .scriptFirst ∧
    QuotedScript.transaction.body = some "'lib'" ∧
    QuotedScript.transaction.header? "content-type" = some "application/javascript" ∧
    ¬ Text.isBlankText "'lib'" ∧
    Text.byteCount "'lib'" ≤ detector.config.scriptLimits.maxScriptBytes ∧
    plugin.checkScript QuotedScript.engine detector.probe ⟨"'lib'", "1.0"⟩ = .ok none ∧
    ∃ result detection,
      detector.detectPlugin QuotedScript.engine QuotedScript.transaction plugin = .ok result ∧
      result.get? "lib" = some detection ∧ "1.0" ∈ detection.versions := by
  intro detector plugin
  have scriptFirst : detector.config.scriptPrecedence = .scriptFirst := rfl
  have body : QuotedScript.transaction.body = some "'lib'" := rfl
  have type : QuotedScript.transaction.header? "content-type" = some "application/javascript" := by
    decide
  have visible : ¬ Text.isBlankText "'lib'" := by decide
  have short : Text.byteCount "'lib'" ≤ detector.config.scriptLimits.maxScriptBytes := by decide
  have accepted :
      plugin.checkScript QuotedScript.engine detector.probe ⟨"'lib'", "1.0"⟩ = .ok none := by
    cbv
  obtain ⟨result, detection, passed, reported, -, -, own⟩ :=
    detectPlugin_of_accepted_script scriptFirst body type visible short accepted
  have normalized : normalizeVersion "1.0" = "1.0" := by cbv
  exact ⟨scriptFirst, body, type, visible, short, accepted, result, detection, passed, reported,
    own.mpr ⟨normalized, by decide⟩⟩

/-- A version that ends in a separator is accepted as it stands and reported without it. -/
theorem Detector.detectPlugin_cuts_accepted_version :
    let detector := QuotedScript.detector
    let plugin := QuotedScript.plugin "'1.0-'"
    plugin.checkScript QuotedScript.engine detector.probe ⟨"'lib'", "1.0-"⟩ = .ok none ∧
    ∃ result detection,
      detector.detectPlugin QuotedScript.engine QuotedScript.transaction plugin = .ok result ∧
      result.get? "lib" = some detection ∧ detection.versions = ["1.0"] := by
  intro detector plugin
  constructor
  · cbv
  · have blocks : detector.blocks QuotedScript.transaction = ["'lib'"] := by cbv
    have probed : detector.probe.probe QuotedScript.engine ["'lib'"] plugin.scriptMatchers =
        .ok (.matched 0 (some "1.0-")) := by
      cbv
    obtain ⟨detection, evaluated, versions, -⟩ :=
      evaluation_of_script_first rfl blocks (List.cons_ne_nil _ _) probed
    have passed := detector.pass_singleton_of_ok QuotedScript.engine _ evaluated
    have reported := DetectionResult.get?_ofEvaluations_singleton evaluated "lib"
    have cut : normalizeVersion "1.0-" = "1.0" := by cbv
    refine ⟨_, detection, passed, reported.trans (if_pos rfl), ?_⟩
    rw [versions, cut]
    rfl

end Fingerprint
