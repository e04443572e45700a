import Mathlib
import Fingerprint.Proofs.CompiledMatchers
import Fingerprint.Proofs.Observations
import Fingerprint.Proofs.Pass
import Fingerprint.Script.Engine

/-!
Detection against the pipeline of single fields.

The pipeline extracts once from all fragments of a category, detection extracts from each matcher
and adds up. For a plugin without script matchers both report the same.
-/

set_option autoImplicit false

namespace Fingerprint

namespace Plugin

/-- The fields with matchers of a category that the transaction has. -/
def populatedFields (plugin : Plugin) (transaction : Transaction) (category : Category) :
    List Field :=
  (plugin.fields category).filter transaction.hasField

/-- What the pipeline finds for a category, field by field. -/
def pipelineFragments (plugin : Plugin) (transaction : Transaction) (category : Category) :
    Except Failure (List Fragment) := do
  let found ← (plugin.populatedFields transaction category).mapM fun field =>
    plugin.fragments transaction field category
  return found.flatten

theorem fragmentsOf_observe (category : Category) (field : Field) (value : FieldValue)
    (matchers : List Matcher) :
    Observation.fragmentsOf category (observe category field value 0 matchers) =
      applyAll matchers value := by
  simp only [Observation.fragmentsOf, observe, List.flatMap_map, ↓reduceIte, applyAll,
    applyFrom_eq_flatMap]

/-- Observations of one category have no fragments of another. -/
theorem fragmentsOf_observationsAt_of_ne (plugin : Plugin) (transaction : Transaction)
    {category other : Category} (different : category ≠ other) (field : Field) :
    Observation.fragmentsOf other (plugin.observationsAt transaction category field) = [] := by
  rw [observationsAt, Observation.fragmentsOf, List.flatMap_eq_nil_iff]
  intro observation member
  obtain ⟨value, _, made⟩ := List.mem_flatMap.mp member
  obtain ⟨_, _, rfl⟩ := List.mem_map.mp made
  exact if_neg different

theorem fragmentsOf_observationsAt_none (plugin : Plugin) {transaction : Transaction}
    {field : Field} (lacking : transaction.field? field = none) (category : Category) :
    Observation.fragmentsOf category (plugin.observationsAt transaction category field) = [] := by
  simp only [observationsAt, lacking, Option.toList_none, List.flatMap_nil,
    Observation.fragmentsOf_nil]

theorem fragmentsOf_observationsAt_some (plugin : Plugin) {transaction : Transaction}
    {field : Field} {value : FieldValue} (present : transaction.field? field = some value)
    (category : Category) :
    Observation.fragmentsOf category (plugin.observationsAt transaction category field) =
      applyAll (plugin.lookup field category) value := by
  simp only [observationsAt, present, Option.toList_some, List.flatMap_singleton,
    fragmentsOf_observe]

/-- The pipeline reads populated fields without fail, and absent fields have no observations. -/
theorem fragments_of_populated (plugin : Plugin) (transaction : Transaction)
    (category : Category) (fields : List Field) :
    ∃ found,
      ((fields.filter transaction.hasField).mapM fun field =>
        plugin.fragments transaction field category) = .ok found ∧
      found.flatten = fields.flatMap fun field =>
        Observation.fragmentsOf category (plugin.observationsAt transaction category field) := by
  induction fields with
  | nil => exact ⟨[], rfl, rfl⟩
  | cons field rest ih =>
    obtain ⟨found, read, flattened⟩ := ih
    cases value : transaction.field? field with
    | none =>
      have absent : ¬ transaction.hasField field := by
        simp only [Transaction.hasField, value, Option.isSome_none, Bool.false_eq_true,
          not_false_eq_true]
      refine ⟨found, ?_, ?_⟩
      · rw [List.filter_cons_of_neg absent, read]
      · rw [List.flatMap_cons, plugin.fragmentsOf_observationsAt_none value, List.nil_append,
          flattened]
    | some text =>
      have populated : transaction.hasField field := by
        simp only [Transaction.hasField, value, Option.isSome_some]
      have first : plugin.fragments transaction field category =
          .ok (applyAll (plugin.lookup field category) text) := by
        simp only [fragments, Transaction.field, value]
        rfl
      refine ⟨applyAll (plugin.lookup field category) text :: found, ?_, ?_⟩
      · rw [List.filter_cons_of_pos populated, List.mapM_cons, first, read]
        rfl
      · rw [List.flatMap_cons, plugin.fragmentsOf_observationsAt_some value, List.flatten_cons,
          flattened]

theorem fragmentsOf_observations (plugin : Plugin) (transaction : Transaction)
    (category : Category) :
    Observation.fragmentsOf category (plugin.observations transaction) =
      (plugin.fields category).flatMap fun field =>
        Observation.fragmentsOf category (plugin.observationsAt transaction category field) := by
  have others : ∀ other, other ≠ category →
      Observation.fragmentsOf category
        ((plugin.fields other).flatMap (plugin.observationsAt transaction other)) = [] := by
    intro other different
    rw [Observation.fragmentsOf_flatMap, List.flatMap_eq_nil_iff]
    exact fun field _ => plugin.fragmentsOf_observationsAt_of_ne transaction different field
  rw [← Observation.fragmentsOf_flatMap]
  simp only [observations, Category.all, List.flatMap_cons, List.flatMap_nil, List.append_nil,
    Observation.fragmentsOf_append]
  cases category with
  | matchers =>
    rw [others .modularMatchers (by decide), others .indicators (by decide), List.append_nil,
      List.append_nil]
  | modularMatchers =>
    rw [others .matchers (by decide), others .indicators (by decide), List.nil_append,
      List.append_nil]
  | indicators =>
    rw [others .matchers (by decide), others .modularMatchers (by decide), List.nil_append,
      List.nil_append]

/-- The pipeline of a category finds what the observations of the category found. -/
theorem pipelineFragments_eq (plugin : Plugin) (transaction : Transaction) (category : Category) :
    plugin.pipelineFragments transaction category =
      .ok (Observation.fragmentsOf category (plugin.observations transaction)) := by
  obtain ⟨found, read, flattened⟩ :=
    plugin.fragments_of_populated transaction category (plugin.fields category)
  rw [fragmentsOf_observations, ← flattened, pipelineFragments, populatedFields, read]
  rfl

end Plugin

/-! ### Detection -/

theorem mergeVersions_nil (versions : List String) (precedence : ScriptPrecedence) :
    mergeVersions versions [] precedence = versions := by
  cases precedence with
  | fieldFirst => cases versions <;> rfl
  | scriptFirst => rfl
  | merge => rfl

/-- Without a script the findings decide alone, whatever the precedence. -/
theorem Findings.resolve_of_no_script {findings : Findings} (unscripted : findings.script = none)
    (precedence : ScriptPrecedence) :
    findings.resolve precedence =
      if findings.versions = [] ∧ findings.names = [] ∧ findings.indicated = false then none
      else some ⟨findings.versions, findings.names, findings.evidence⟩ := by
  have nothing : findings.scriptVersions = [] := by
    simp only [scriptVersions, unscripted, Option.bind_none]
  simp only [resolve, nothing, mergeVersions_nil, unscripted, Option.isNone_none, Bool.and_true,
    Bool.and_eq_true, List.isEmpty_iff, Bool.not_eq_true', and_assoc]

theorem Detector.evaluation_of_no_scripts (detector : Detector) (engine : ScriptEngine)
    (transaction : Transaction) {plugin : Plugin} (unscripted : plugin.scriptMatchers = []) :
    (detector.evaluation engine transaction plugin).detection =
      .ok ((plugin.fieldFindings transaction).resolve detector.config.scriptPrecedence) := by
  rw [evaluation_detection, if_neg fun probes => probes.1 unscripted]

theorem Detector.detectPlugin_of_no_scripts (detector : Detector) (engine : ScriptEngine)
    (transaction : Transaction) {plugin : Plugin} (unscripted : plugin.scriptMatchers = []) :
    ∃ result, detector.detectPlugin engine transaction plugin = .ok result ∧
      ∀ name, result.get? name =
        if plugin.name = name then
          (plugin.fieldFindings transaction).resolve detector.config.scriptPrecedence
        else none := by
  have evaluated := detector.evaluation_of_no_scripts engine transaction unscripted
  rw [detectPlugin_eq_pass]
  exact ⟨_, detector.pass_singleton_of_ok engine transaction evaluated,
    DetectionResult.get?_ofEvaluations_singleton evaluated⟩

/-- Detection reports a plugin without script matchers if the pipeline finds a version, a name or
an indicator, and then reports the versions and names that the pipeline extracts. -/
theorem Detector.detectPlugin_iff_pipeline (detector : Detector) (engine : ScriptEngine)
    (transaction : Transaction) (plugin : Plugin) (unscripted : plugin.scriptMatchers = []) :
    ∃ found : Category → List Fragment,
      (∀ category, plugin.pipelineFragments transaction category = .ok (found category)) ∧
      ∃ result, detector.detectPlugin engine transaction plugin = .ok result ∧
        (∀ name, result.contains name → name = plugin.name) ∧
        (result.contains plugin.name ↔
          extractVersions (found .matchers) ≠ [] ∨ extractNames (found .modularMatchers) ≠ [] ∨
            found .indicators ≠ []) ∧
        ∀ detection, result.get? plugin.name = some detection →
          detection.versions = extractVersions (found .matchers) ∧
          detection.names = extractNames (found .modularMatchers) := by
  obtain ⟨result, passed, reported⟩ :=
    detector.detectPlugin_of_no_scripts engine transaction unscripted
  have own := reported plugin.name
  rw [if_pos rfl, Findings.resolve_of_no_script (plugin.fieldFindings_script transaction),
    plugin.fieldFindings_versions, plugin.fieldFindings_names,
    plugin.fieldFindings_indicated] at own
  refine ⟨fun category => Observation.fragmentsOf category (plugin.observations transaction),
    plugin.pipelineFragments_eq transaction, result, passed, ?_, ?_, ?_⟩
  · intro name found
    by_cases same : plugin.name = name
    · exact same.symm
    · rw [DetectionResult.contains, reported, if_neg same] at found
      cases found
  · rw [DetectionResult.contains, own]
    split
    next nothing =>
      obtain ⟨versions, names, indicators⟩ := nothing
      rw [Bool.not_eq_false', List.isEmpty_iff] at indicators
      simp only [Option.isSome_none, Bool.false_eq_true, versions, names, indicators, ne_eq,
        not_true_eq_false, or_self]
    next something =>
      simp only [Bool.not_eq_false', List.isEmpty_iff, Decidable.not_and_iff_or_not] at something
      simpa only [Option.isSome_some, ne_eq, true_iff] using something
  · intro detection found
    rw [own] at found
    split at found
    · cases found
    · cases found
      exact ⟨rfl, rfl⟩

theorem Detector.detectPlugin_digitPage :
    (DigitPage.plugin []).scriptMatchers = [] ∧ ∃ result,
      (Detector.standard .empty).detectPlugin Script.engine DigitPage.transaction
        (DigitPage.plugin []) = .ok result ∧
      result.contains "digits" ∧
      ∀ detection, result.get? "digits" = some detection →
        detection.versions = ["1", "2"] ∧ detection.names = [] := by
  obtain ⟨found, read, result, passed, _, reported, extracted⟩ :=
    detectPlugin_iff_pipeline (.standard .empty) Script.engine DigitPage.transaction
      (DigitPage.plugin []) rfl
  have versions : extractVersions (found .matchers) = ["1", "2"] := by
    have fragments : (DigitPage.plugin []).pipelineFragments DigitPage.transaction .matchers =
        .ok [⟨0, some "1", none⟩, ⟨0, some "2", none⟩, ⟨0, some "1", none⟩, ⟨1, some "1", none⟩,
          ⟨1, some "2", none⟩, ⟨1, some "1", none⟩] := by
      cbv
    rw [Except.ok.inj ((read .matchers).symm.trans fragments)]
    cbv
  have names : extractNames (found .modularMatchers) = [] := by
    have fragments : (DigitPage.plugin []).pipelineFragments DigitPage.transaction .modularMatchers =
        .ok [] := by
      cbv
    rw [Except.ok.inj ((read .modularMatchers).symm.trans fragments)]
    rfl
  rw [versions, names] at reported extracted
  exact ⟨rfl, result, passed, reported.mpr (.inl (List.cons_ne_nil _ _)), extracted⟩

end Fingerprint
