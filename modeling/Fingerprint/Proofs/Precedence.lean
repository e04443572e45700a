import Fingerprint.Proofs.Isolation
import Fingerprint.Proofs.Provenance

/-!
What the version precedence decides.

Evidence is gathered without a look at the precedence, so passes that differ in nothing else report
the same plugins with the same names and evidence. Only the versions differ: all of them count if
they are merged, and otherwise some of these, at least one if there is any.
-/

set_option autoImplicit false

namespace Fingerprint

/-! ### Merging versions -/

theorem mem_mergeVersions_merge {fieldVersions scriptVersions : List String} {version : String} :
    version ∈ mergeVersions fieldVersions scriptVersions .merge ↔
      version ∈ fieldVersions ∨ version ∈ scriptVersions :=
  mem_foldl_pushDistinct

/-- Whatever the precedence, the versions that count are among those that are merged. -/
theorem mergeVersions_subset_merge (fieldVersions scriptVersions : List String)
    (precedence : ScriptPrecedence) :
    mergeVersions fieldVersions scriptVersions precedence ⊆
      mergeVersions fieldVersions scriptVersions .merge :=
  fun _ member => mem_mergeVersions_merge.mpr (mem_or_mem_of_mem_mergeVersions member)

theorem mergeVersions_fieldFirst {fieldVersions : List String} (found : fieldVersions ≠ [])
    (scriptVersions : List String) :
    mergeVersions fieldVersions scriptVersions .fieldFirst = fieldVersions := by
  rw [mergeVersions, if_neg (mt List.isEmpty_iff.mp found)]

theorem mergeVersions_scriptFirst {scriptVersions : List String} (found : scriptVersions ≠ [])
    (fieldVersions : List String) :
    mergeVersions fieldVersions scriptVersions .scriptFirst = scriptVersions := by
  rw [mergeVersions, if_neg (mt List.isEmpty_iff.mp found)]

example : [.fieldFirst, .scriptFirst, .merge].map (mergeVersions ["1.0"] ["2.0"]) =
    [["1.0"], ["2.0"], ["1.0", "2.0"]] := by
  decide

/-! ### Evaluations under another precedence -/

namespace Detector

/-- The detector with another precedence. -/
def withPrecedence (detector : Detector) (precedence : ScriptPrecedence) : Detector :=
  { detector with config := { detector.config with scriptPrecedence := precedence } }

variable (detector : Detector) (engine : ScriptEngine) (transaction : Transaction)

/-- The findings of a plugin are the same under every precedence. -/
theorem evaluation_withPrecedence (precedence : ScriptPrecedence) (plugin : Plugin) :
    ((detector.withPrecedence precedence).evaluation engine transaction plugin).detection =
      (detector.findings engine transaction plugin).map (·.resolve precedence) :=
  (detector.withPrecedence precedence).evaluation_findings engine transaction plugin

theorem abortion?_withPrecedence (first second : ScriptPrecedence) (plugin : Plugin) :
    ((detector.withPrecedence first).evaluation engine transaction plugin).abortion? =
      ((detector.withPrecedence second).evaluation engine transaction plugin).abortion? := by
  simp only [Evaluation.abortion?, evaluation_withPrecedence]
  cases detector.findings engine transaction plugin with
  | error failure => rfl
  | ok found => rfl

theorem fault?_withPrecedence (first second : ScriptPrecedence) (plugin : Plugin) :
    ((detector.withPrecedence first).evaluation engine transaction plugin).fault? =
      ((detector.withPrecedence second).evaluation engine transaction plugin).fault? := by
  simp only [Evaluation.fault?, evaluation_withPrecedence]
  cases detector.findings engine transaction plugin with
  | error failure => rfl
  | ok found => rfl

/-- The evaluations of all plugins under a precedence. -/
def evaluationsUnder (plugins : List Plugin) (precedence : ScriptPrecedence) : List Evaluation :=
  plugins.map ((detector.withPrecedence precedence).evaluation engine transaction)

/-- A pass is aborted under every precedence, or under none. -/
theorem pass_withPrecedence (plugins : List Plugin) :
    (∃ failure, ∀ precedence,
      (detector.withPrecedence precedence).pass engine transaction plugins = .error failure) ∨
    ∀ precedence, (detector.withPrecedence precedence).pass engine transaction plugins =
      .ok (.ofEvaluations (detector.evaluationsUnder engine transaction plugins precedence)) := by
  have alike : ∀ precedence,
      (plugins.map ((detector.withPrecedence precedence).evaluation engine transaction)).findSome?
          Evaluation.abortion? =
        (plugins.map ((detector.withPrecedence .merge).evaluation engine transaction)).findSome?
          Evaluation.abortion? := by
    intro precedence
    rw [List.findSome?_map, List.findSome?_map]
    congr 1
    funext plugin
    exact detector.abortion?_withPrecedence engine transaction precedence .merge plugin
  simp only [pass_eq, alike]
  cases (plugins.map ((detector.withPrecedence .merge).evaluation engine transaction)).findSome?
      Evaluation.abortion? with
  | some failure => exact .inl ⟨failure, fun _ => rfl⟩
  | none => exact .inr fun _ => rfl

theorem faults_evaluationsUnder (plugins : List Plugin) (first second : ScriptPrecedence) :
    (DetectionResult.ofEvaluations
        (detector.evaluationsUnder engine transaction plugins first)).faults =
      (DetectionResult.ofEvaluations
        (detector.evaluationsUnder engine transaction plugins second)).faults := by
  simp only [DetectionResult.ofEvaluations, evaluationsUnder, List.filterMap_map]
  congr 1
  funext plugin
  exact detector.fault?_withPrecedence engine transaction first second plugin

theorem missingFields_evaluationsUnder (plugins : List Plugin) (first second : ScriptPrecedence) :
    (DetectionResult.ofEvaluations
        (detector.evaluationsUnder engine transaction plugins first)).missingFields =
      (DetectionResult.ofEvaluations
        (detector.evaluationsUnder engine transaction plugins second)).missingFields := by
  simp only [DetectionResult.ofEvaluations, evaluationsUnder, List.flatMap_map]
  rfl

/-- What is reported under a name is what the findings of its plugin amount to. -/
theorem get?_evaluationsUnder {precedence : ScriptPrecedence}
    (passed : (detector.withPrecedence precedence).detect engine transaction =
      .ok (.ofEvaluations
        (detector.evaluationsUnder engine transaction detector.catalog.plugins precedence)))
    (name : String) :
    (DetectionResult.ofEvaluations (detector.evaluationsUnder engine transaction
        detector.catalog.plugins precedence)).get? name =
      (detector.catalog.get? name).bind fun plugin =>
        (detector.findings engine transaction plugin).toOption.bind (·.resolve precedence) := by
  cases known : detector.catalog.get? name with
  | none =>
    have absent : ∀ plugin ∈ detector.catalog.plugins, plugin.name ≠ name := by
      intro plugin member named
      have found := Catalog.get?_eq_some_iff.mpr ⟨member, named⟩
      rw [known] at found
      cases found
    have nothing := (detector.withPrecedence precedence).about_pass_of_absent engine transaction
      passed absent
    rw [← DetectionResult.get?_about, nothing]
    rfl
  | some plugin =>
    obtain ⟨member, rfl⟩ := Catalog.get?_eq_some_iff.mp known
    rw [(detector.withPrecedence precedence).get?_of_pass engine transaction passed
      detector.catalog.names_distinct member, evaluation_withPrecedence, Option.bind_some]
    cases detector.findings engine transaction plugin with
    | error failure => rfl
    | ok found => rfl

end Detector

/-! ### Detections under all precedences -/

/-- How the detections of one plugin under the precedences are related. -/
structure Detection.VaryInVersions (detection : ScriptPrecedence → Detection) : Prop where
  names : ∀ first second, (detection first).names = (detection second).names
  evidence : ∀ first second, (detection first).evidence = (detection second).evidence
  merged : ∀ precedence, (detection precedence).versions ⊆ (detection .merge).versions
  unknown : ∀ first second, (detection first).versions = [] ↔ (detection second).versions = []
  fieldFirst : (∃ version, (detection .fieldFirst).FoundInField version) →
    ∃ version, (detection .fieldFirst).primaryVersion = some version ∧
      (detection .fieldFirst).FoundInField version
  scriptFirst : ∀ version ≠ "", (detection .scriptFirst).FoundByScript version →
    (detection .scriptFirst).primaryVersion = some version

theorem Findings.Accounted.varyInVersions {findings : Findings} (accounted : findings.Accounted) :
    Detection.VaryInVersions fun precedence =>
      ⟨mergeVersions findings.versions findings.scriptVersions precedence, findings.names,
        findings.evidence⟩ := by
  refine ⟨fun _ _ => rfl, fun _ _ => rfl, mergeVersions_subset_merge _ _, ?_, ?_, ?_⟩
  · intro first second
    exact mergeVersions_eq_nil_iff.trans mergeVersions_eq_nil_iff.symm
  · rintro ⟨version, inField⟩
    have inFields (version : String) : version ∈ findings.versions ↔
        ∃ field matcher, ⟨.field field .matchers, matcher, some version⟩ ∈ findings.evidence := by
      rw [accounted.versions, mem_valuesIn_iff]
    have found : findings.versions ≠ [] := List.ne_nil_of_mem ((inFields version).mpr inField)
    refine ⟨findings.versions.head found, ?_, (inFields _).mp (List.head_mem found)⟩
    rw [Detection.primaryVersion, mergeVersions_fieldFirst found]
    exact List.head?_eq_some_head found
  · intro version inhabited byScript
    have member : version ∈ findings.scriptVersions := by
      rw [accounted.script]
      exact mem_scriptVersionsIn_iff.mpr ⟨inhabited, byScript⟩
    have found : findings.scriptVersions = [version] := by
      rcases findings.scriptVersions_cases with empty | ⟨other, single⟩
      · rw [empty] at member
        cases member
      · rw [single, List.mem_singleton] at member
        rw [single, member]
    rw [Detection.primaryVersion, found, mergeVersions_scriptFirst (List.cons_ne_nil _ _)]
    rfl

/-- The precedence decides about versions only. Under every precedence a pass reports the same
plugins with the same names and evidence, the same faults and the same missing fields; it is aborted
under all of them or under none. -/
theorem Detector.detect_withPrecedence (detector : Detector) (engine : ScriptEngine)
    (transaction : Transaction) :
    (¬ detector.config.scriptLimits.timeLimit.reachableFrom engine.now ∧
      ∀ precedence, (detector.withPrecedence precedence).detect engine transaction =
        .error .deadlineOverflow) ∨
    ∃ result : ScriptPrecedence → DetectionResult,
      (∀ precedence, (detector.withPrecedence precedence).detect engine transaction =
        .ok (result precedence)) ∧
      (∀ first second, (result first).faults = (result second).faults ∧
        (result first).missingFields = (result second).missingFields) ∧
      ∀ name, (∀ precedence, (result precedence).get? name = none) ∨
        ∃ detection : ScriptPrecedence → Detection,
          (∀ precedence, (result precedence).get? name = some (detection precedence)) ∧
          Detection.VaryInVersions detection := by
  rcases detector.pass_withPrecedence engine transaction detector.catalog.plugins with
    ⟨failure, aborted⟩ | passed
  · obtain ⟨rfl, beyond⟩ := pass_eq_error _ engine transaction (aborted .merge)
    exact .inl ⟨beyond, aborted⟩
  refine .inr ⟨fun precedence => .ofEvaluations (detector.evaluationsUnder engine transaction
    detector.catalog.plugins precedence), passed, fun first second => ?_, fun name => ?_⟩
  · exact ⟨detector.faults_evaluationsUnder engine transaction _ first second,
      detector.missingFields_evaluationsUnder engine transaction _ first second⟩
  have reported (precedence : ScriptPrecedence) :=
    detector.get?_evaluationsUnder engine transaction (passed precedence) name
  simp only [reported]
  cases detector.catalog.get? name with
  | none => exact .inl fun _ => rfl
  | some plugin =>
    simp only [Option.bind_some]
    cases gathered : detector.findings engine transaction plugin with
    | error failure => exact .inl fun _ => rfl
    | ok found =>
      have accounted := accounted_of_findings gathered
      by_cases empty : found.evidence = []
      · refine .inl fun precedence => ?_
        change found.resolve precedence = none
        rw [accounted.resolve_eq, if_pos empty]
      · refine .inr ⟨_, fun precedence => ?_, accounted.varyInVersions⟩
        change found.resolve precedence = some _
        rw [accounted.resolve_eq, if_neg empty]

end Fingerprint
