import Fingerprint.Proofs.Evidence
import Fingerprint.Proofs.Pipeline

/-!
What script matchers add to the findings in fields.

A probe that ends in any outcome leaves what the fields show as it is and adds at most one record.
A probe that fails, because there is no sandbox for it, takes the detection of its plugin along.
-/

set_option autoImplicit false

namespace Fingerprint

theorem map_eq_error_iff {α β : Type} {outcome : Except Failure α} {change : α → β}
    {failure : Failure} : outcome.map change = .error failure ↔ outcome = .error failure := by
  cases outcome with
  | error cause => simp only [Except.map, Except.error.injEq]
  | ok value => exact ⟨nofun, nofun⟩

/-- The plugin with its matchers of fields alone. -/
def Plugin.withoutScripts (plugin : Plugin) : Plugin := { plugin with scriptMatchers := [] }

/-- Whether a detection says all that another says, and nothing else but what a script matcher that
applied may add. -/
structure Detection.ExtendedBy (fields all : Detection) (precedence : ScriptPrecedence) : Prop where
  names : all.names = fields.names
  evidence : ∃ script : Option ScriptFinding,
    all.evidence = fields.evidence ++ (script.map ScriptFinding.evidence).toList
  versions : precedence ≠ .scriptFirst → fields.versions <+: all.versions

theorem prefix_mergeVersions (fieldVersions scriptVersions : List String)
    {precedence : ScriptPrecedence} (kept : precedence ≠ .scriptFirst) :
    fieldVersions <+: mergeVersions fieldVersions scriptVersions precedence := by
  cases precedence with
  | fieldFirst =>
    cases fieldVersions with
    | nil => exact List.nil_prefix
    | cons => exact List.prefix_refl _
  | scriptFirst => exact absurd rfl kept
  | merge => exact prefix_foldl_pushDistinct scriptVersions fieldVersions

/-- Whatever a probe finds out, what was found in the fields is still reported. -/
theorem Findings.resolve_addProbe {findings : Findings} (unscripted : findings.script = none)
    {precedence : ScriptPrecedence} {fields : Detection}
    (found : findings.resolve precedence = some fields) (outcome : ProbeOutcome) :
    ∃ all, (findings.addProbe outcome).resolve precedence = some all ∧
      fields.ExtendedBy all precedence := by
  have same : fields.ExtendedBy fields precedence :=
    ⟨rfl, ⟨none, (List.append_nil _).symm⟩, fun _ => List.prefix_refl _⟩
  cases outcome with
  | noMatch => exact ⟨fields, found, same⟩
  | scriptFailed fault => exact ⟨fields, found, same⟩
  | matched matcher version =>
    rw [resolve_of_no_script unscripted] at found
    split at found
    · cases found
    · cases found
      simp only [addProbe, setScript, unscripted, resolve, Option.isNone_some, Bool.and_false,
        Bool.false_eq_true, ↓reduceIte]
      exact ⟨_, rfl, rfl, ⟨some ⟨matcher, version⟩, rfl⟩, prefix_mergeVersions _ _⟩

namespace Detector

variable (detector : Detector) (engine : ScriptEngine) (transaction : Transaction)

/-- Whether a plugin is probed in a pass and the probe fails: there are matchers and scripts of a
length that is evaluated, but the clock cannot show the deadline or no sandbox can be made. -/
def ProbeFails (plugin : Plugin) (failure : Failure) : Prop :=
  let limits := detector.config.scriptLimits
  plugin.scriptMatchers ≠ [] ∧ detector.blocks transaction ≠ [] ∧
    ScriptProbe.totalBytes (detector.blocks transaction) ≤ limits.maxScriptBytes ∧
    (¬ limits.timeLimit.reachableFrom engine.now ∧ failure = .deadlineOverflow ∨
      limits.timeLimit.reachableFrom engine.now ∧ engine.create limits = none ∧
        failure = .sandboxUnavailable)

/-- The evaluation of a plugin fails exactly if its probe does. -/
theorem probeFails_iff {plugin : Plugin} {failure : Failure} :
    detector.ProbeFails engine transaction plugin failure ↔
      (detector.evaluation engine transaction plugin).detection = .error failure := by
  rw [evaluation_detection]
  split
  next probes =>
    rw [map_eq_error_iff, ScriptProbe.probe_eq, map_eq_error_iff, ScriptProbe.report_eq_error_iff,
      ProbeFails, and_iff_right probes.2]
    rfl
  next silent => exact ⟨fun fails => absurd ⟨fails.1, fails.2.1⟩ silent, nofun⟩

/-- An evaluation that does not fail adds an outcome to the findings in fields. Where nothing is
probed, that is the outcome of no match. -/
theorem evaluation_of_completes {plugin : Plugin}
    (completes : ∀ failure,
      (detector.evaluation engine transaction plugin).detection ≠ .error failure) :
    ∃ outcome, (detector.evaluation engine transaction plugin).detection =
      .ok (((plugin.fieldFindings transaction).addProbe outcome).resolve
        detector.config.scriptPrecedence) := by
  rw [evaluation_detection] at completes ⊢
  split at completes
  next probes =>
    rw [if_pos probes]
    cases probed : detector.probe.probe engine (detector.blocks transaction)
        plugin.scriptMatchers with
    | error failure => exact absurd (map_eq_error_iff.mpr probed) (completes failure)
    | ok outcome => exact ⟨outcome, rfl⟩
  next silent =>
    rw [if_neg silent]
    exact ⟨.noMatch, rfl⟩

/-- A plugin whose evaluation fails is listed with the failure, or aborts the pass. -/
theorem pass_singleton_of_error {plugin : Plugin} {failure : Failure}
    (failed : (detector.evaluation engine transaction plugin).detection = .error failure) :
    detector.pass engine transaction [plugin] =
      if failure.aborts then .error failure
      else .ok ⟨[], [⟨plugin.name, failure.message⟩],
        (plugin.missingFields transaction).map (⟨plugin.name, ·⟩)⟩ := by
  have abortion : (detector.evaluation engine transaction plugin).abortion? =
      if failure.aborts then some failure else none := by
    simp only [Evaluation.abortion?, failed]
  rw [pass_eq, List.map_singleton, List.findSome?_cons, List.findSome?_nil, abortion]
  by_cases aborts : failure.aborts
  · simp only [aborts, ↓reduceIte]
  · simp only [aborts, Bool.false_eq_true, ↓reduceIte, DetectionResult.ofEvaluations,
      List.filterMap_cons, List.filterMap_nil, Evaluation.detection?, Evaluation.fault?, failed,
      List.flatMap_singleton]
    rfl

/-- What is found in the fields of a plugin without script matchers is found with them as well,
unless its probe fails. Then nothing is reported of the plugin but the failure, or the whole pass is
aborted. -/
theorem detectPlugin_extends_fields (plugin : Plugin) :
    ∃ fields, detector.detectPlugin engine transaction plugin.withoutScripts = .ok fields ∧
      (∀ found, fields.get? plugin.name = some found →
        ((∃ result all, detector.detectPlugin engine transaction plugin = .ok result ∧
          result.get? plugin.name = some all ∧
          found.ExtendedBy all detector.config.scriptPrecedence) ↔
        ∀ failure, ¬ detector.ProbeFails engine transaction plugin failure)) ∧
      (detector.ProbeFails engine transaction plugin .sandboxUnavailable →
        detector.detectPlugin engine transaction plugin =
          .ok ⟨[], [⟨plugin.name, Failure.sandboxUnavailable.message⟩], fields.missingFields⟩) ∧
      (detector.ProbeFails engine transaction plugin .deadlineOverflow →
        detector.detectPlugin engine transaction plugin = .error .deadlineOverflow) := by
  have unprobed : (detector.evaluation engine transaction plugin.withoutScripts).detection =
      .ok ((plugin.fieldFindings transaction).resolve detector.config.scriptPrecedence) := by
    rw [evaluation_detection, if_neg fun probes => probes.1 rfl]
    rfl
  simp only [detectPlugin_eq_pass, detector.pass_singleton_of_ok engine transaction unprobed,
    Except.ok.injEq, exists_eq_left', probeFails_iff]
  refine ⟨fun found inFields => ?_, fun failed => ?_, fun failed => ?_⟩
  · have resolved : (plugin.fieldFindings transaction).resolve detector.config.scriptPrecedence =
        some found := by
      rw [DetectionResult.get?_ofEvaluations_singleton unprobed] at inFields
      exact (if_pos rfl).symm.trans inFields
    constructor
    · rintro ⟨result, all, passed, reported, _⟩ failure failed
      rw [detector.pass_singleton_of_error engine transaction failed] at passed
      split at passed
      · cases passed
      · cases passed
        cases reported
    · intro completes
      obtain ⟨outcome, evaluated⟩ := detector.evaluation_of_completes engine transaction completes
      obtain ⟨all, added, extended⟩ :=
        Findings.resolve_addProbe (plugin.fieldFindings_script transaction) resolved outcome
      rw [added] at evaluated
      refine ⟨_, all, detector.pass_singleton_of_ok engine transaction evaluated, ?_, extended⟩
      rw [DetectionResult.get?_ofEvaluations_singleton evaluated]
      exact if_pos rfl
  · have reported : ¬ Failure.sandboxUnavailable.aborts := Bool.false_ne_true
    rw [detector.pass_singleton_of_error engine transaction failed, if_neg reported,
      DetectionResult.ofEvaluations, List.flatMap_singleton]
    rfl
  · exact detector.pass_singleton_of_error engine transaction failed

/-- Versions that the fields show are lost if no sandbox can be made for the script matchers. -/
theorem detectPlugin_loses_fields :
    let detector : Detector := ⟨.empty, { Config.standard with scriptLimits.memoryLimit := 1 }⟩
    let plugin := DigitPage.plugin [⟨"1", "2"⟩]
    detector.detectPlugin Script.engine DigitPage.transaction plugin.withoutScripts =
      .ok ⟨[("digits", ⟨["1", "2"], [], DigitPage.fieldEvidence⟩)], [], []⟩ ∧
    detector.detectPlugin Script.engine DigitPage.transaction plugin =
      .ok ⟨[], [⟨"digits", Failure.sandboxUnavailable.message⟩], []⟩ := by
  intro detector plugin
  have blocks : detector.blocks DigitPage.transaction = ["3"] := by cbv
  have fails : detector.ProbeFails Script.engine DigitPage.transaction plugin
      .sandboxUnavailable := by
    refine ⟨List.cons_ne_nil _ _, ?_, ?_, .inr ⟨by decide, rfl, rfl⟩⟩
    · exact blocks ▸ List.cons_ne_nil _ _
    · rw [blocks]
      decide
  constructor
  · cbv
  · have reported : ¬ Failure.sandboxUnavailable.aborts := Bool.false_ne_true
    have present : plugin.missingFields DigitPage.transaction = [] := by cbv
    rw [detectPlugin_eq_pass, detector.pass_singleton_of_error Script.engine DigitPage.transaction
      ((detector.probeFails_iff Script.engine DigitPage.transaction).mp fails), if_neg reported,
      present]
    rfl

end Detector

end Fingerprint
