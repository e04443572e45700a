import Fingerprint.Proofs.Evidence
import Fingerprint.Proofs.Pipeline
import Fingerprint.Validation.Check

/-!
Checks of examples against detection.

A check extracts from one field of a sample at a time, and detection goes through all matchers of a
plugin. For a plugin without script matchers an example is accepted exactly if detection on the
field alone reports what the example expects.
-/

set_option autoImplicit false

namespace Fingerprint

/-! ### Samples -/

namespace Sample

/-- A declared field makes a transaction that has this field and no other. -/
theorem transaction_of_mem_fields {sample : Sample} {field : Field}
    (declared : field ∈ sample.fields) :
    ∃ transaction, sample.transaction field = .ok transaction ∧
      ∀ other, transaction.hasField other ↔ other = field := by
  have held := (List.mem_filter.mp declared).2
  cases field with
  | url =>
    obtain ⟨url, given⟩ := Option.isSome_iff_exists.mp held
    refine ⟨Transaction.empty.withUrl url, ?_, fun other => ?_⟩
    · simp only [transaction, given, Option.map_some]
    · cases other <;> simp [Transaction.hasField, Transaction.field?, Transaction.empty,
        Transaction.withUrl]
  | body =>
    obtain ⟨body, given⟩ := Option.isSome_iff_exists.mp held
    refine ⟨Transaction.empty.withBody body, ?_, fun other => ?_⟩
    · simp only [transaction, given, Option.map_some]
    · cases other <;> simp [Transaction.hasField, Transaction.field?, Transaction.empty,
        Transaction.withBody]
  | header =>
    obtain ⟨⟨name, value⟩, given⟩ := Option.isSome_iff_exists.mp held
    refine ⟨Transaction.empty.withHeader name value, ?_, fun other => ?_⟩
    · simp only [transaction, given, Option.map_some]
    · cases other <;> simp [Transaction.hasField, Transaction.field?, Transaction.empty,
        Transaction.withHeader]

theorem primaryField_eq_ok_iff {sample : Sample} {field : Field} :
    sample.primaryField = .ok field ↔ sample.fields.head? = some field := by
  unfold primaryField
  cases sample.fields with
  | nil => exact ⟨nofun, nofun⟩
  | cons first rest => simp only [Except.ok.injEq, List.head?_cons, Option.some.injEq]

theorem mem_fields_of_primaryField {sample : Sample} {field : Field}
    (primary : sample.primaryField = .ok field) : field ∈ sample.fields :=
  List.mem_of_head? (primaryField_eq_ok_iff.mp primary)

theorem primaryField_eq_error_iff {sample : Sample} {failure : Failure} :
    sample.primaryField = .error failure ↔ failure = .sampleEmpty ∧ sample.fields = [] := by
  unfold primaryField
  cases sample.fields with
  | nil => simp only [Except.error.injEq, eq_comm, and_true]
  | cons first rest => simp only [reduceCtorEq, and_false]

end Sample

/-! ### Fragments of a single field -/

namespace Plugin

theorem fields_nodup (plugin : Plugin) (category : Category) : (plugin.fields category).Nodup :=
  List.Nodup.filter _ (by decide)

/-- In a transaction with one field alone, the pipeline of the field finds all that the observations
of a category found. -/
theorem fragments_of_single (plugin : Plugin) {transaction : Transaction} {field : Field}
    (single : ∀ other, transaction.hasField other ↔ other = field) (category : Category) :
    plugin.fragments transaction field category =
      .ok (Observation.fragmentsOf category (plugin.observations transaction)) := by
  obtain ⟨value, present⟩ := Option.isSome_iff_exists.mp ((single field).mpr rfl)
  have others : ∀ other, other ≠ field →
      Observation.fragmentsOf category (plugin.observationsAt transaction category other) = [] := by
    intro other different
    have lacking : transaction.field? other = none :=
      Option.not_isSome_iff_eq_none.mp (mt (single other).mp different)
    exact plugin.fragmentsOf_observationsAt_none lacking category
  have own := plugin.fragmentsOf_observationsAt_some present category
  have read : plugin.fragments transaction field category =
      .ok (applyAll (plugin.lookup field category) value) := by
    simp only [fragments, Transaction.field, present]
    rfl
  rw [read, fragmentsOf_observations, ← own]
  by_cases declared : field ∈ plugin.fields category
  · obtain ⟨before, after, listed⟩ := List.append_of_mem declared
    have distinct := List.nodup_middle.mp (listed ▸ plugin.fields_nodup category)
    have apart {other : Field} (member : other ∈ before ++ after) : other ≠ field :=
      fun same => (List.nodup_cons.mp distinct).1 (same ▸ member)
    have front := List.flatMap_eq_nil_iff.mpr fun other member =>
      others other (apart (List.mem_append_left after member))
    have back := List.flatMap_eq_nil_iff.mpr fun other member =>
      others other (apart (List.mem_append_right before member))
    rw [listed, List.flatMap_append, List.flatMap_cons, front, back, List.nil_append,
      List.append_nil]
  · have undeclared : plugin.lookup field category = [] := by
      simpa [fields, Field.mem_all] using declared
    have nothing := List.flatMap_eq_nil_iff.mpr fun other member =>
      others other fun same => declared (same ▸ member)
    rw [nothing, own, undeclared]
    rfl

/-- What the matchers of a category find in one field of a sample alone. -/
def sampleFragments (plugin : Plugin) (sample : Sample) (field : Field) (category : Category) :
    List Fragment :=
  match sample.transaction field with
  | .ok transaction => Observation.fragmentsOf category (plugin.observations transaction)
  | .error _ => []

theorem extractSample_eq (plugin : Plugin) {sample : Sample} {field : Field}
    (declared : field ∈ sample.fields) (category : Category) (extraction : Extraction) :
    plugin.extractSample sample field category extraction =
      .ok (extraction.run (plugin.sampleFragments sample field category)) := by
  obtain ⟨transaction, made, single⟩ := Sample.transaction_of_mem_fields declared
  simp only [extractSample, extract, sampleFragments, made, bind, Except.bind,
    plugin.fragments_of_single single]
  rfl

end Plugin

/-! ### Detection on a single field -/

/-- Whether evidence of an indicator belongs to a detection. -/
def Detection.ShowsIndicator (detection : Detection) : Prop :=
  ∃ record ∈ detection.evidence, ∃ field, record.source = .field field .indicators

theorem Observation.fragmentsOf_ne_nil_iff {category : Category}
    {observations : List Observation} :
    fragmentsOf category observations ≠ [] ↔
      ∃ observation ∈ observations, observation.category = category ∧
        observation.fragments ≠ [] := by
  simp only [fragmentsOf, ne_eq, List.flatMap_eq_nil_iff, ite_eq_right_iff, not_forall,
    exists_prop]

/-- Observations leave evidence of an indicator exactly if an indicator found something. -/
theorem Observation.exists_indicator_iff (observations : List Observation) :
    (∃ record ∈ observations.flatMap (·.evidence), ∃ field,
      record.source = .field field .indicators) ↔ fragmentsOf .indicators observations ≠ [] := by
  rw [fragmentsOf_ne_nil_iff]
  constructor
  · rintro ⟨record, member, field, source⟩
    obtain ⟨observation, observed, left⟩ := List.mem_flatMap.mp member
    have own := (source_of_mem_evidence left).1.symm.trans source
    obtain ⟨-, category⟩ := EvidenceSource.field.inj own
    refine ⟨observation, observed, category, fun empty => ?_⟩
    rw [evidence, category, empty] at left
    cases left
  · rintro ⟨observation, observed, category, inhabited⟩
    refine ⟨⟨.field observation.field .indicators, observation.matcher, none⟩,
      List.mem_flatMap.mpr ⟨observation, observed, ?_⟩, observation.field, rfl⟩
    have nonempty : ¬ observation.fragments.isEmpty := mt List.isEmpty_iff.mp inhabited
    rw [evidence, category]
    simp only [nonempty, Bool.false_eq_true, ↓reduceIte, List.mem_singleton]

/-- Findings without a script are reported with all that they hold, if they hold anything. -/
theorem Findings.exists_resolved_iff {findings : Findings} (unscripted : findings.script = none)
    (precedence : ScriptPrecedence) {shows : Detection → Prop}
    (something : shows ⟨findings.versions, findings.names, findings.evidence⟩ →
      ¬ (findings.versions = [] ∧ findings.names = [] ∧ findings.indicated = false)) :
    (∃ detection, findings.resolve precedence = some detection ∧ shows detection) ↔
      shows ⟨findings.versions, findings.names, findings.evidence⟩ := by
  rw [resolve_of_no_script unscripted]
  split
  next nothing => exact ⟨nofun, fun shown => absurd nothing (something shown)⟩
  next => simp only [Option.some.injEq, exists_eq_left']

namespace Detector

/-- Whether detection on one field of a sample alone reports the plugin. -/
def ReportsSample (detector : Detector) (engine : ScriptEngine) (plugin : Plugin) (sample : Sample)
    (field : Field) (detection : Detection) : Prop :=
  ∃ transaction result, sample.transaction field = .ok transaction ∧
    detector.detectPlugin engine transaction plugin = .ok result ∧
    result.get? plugin.name = some detection

section

variable (detector : Detector) (engine : ScriptEngine) {plugin : Plugin}
  (unscripted : plugin.scriptMatchers = []) {sample : Sample} {field : Field}

include unscripted

theorem exists_reportsSample_iff {transaction : Transaction}
    (made : sample.transaction field = .ok transaction) (shows : Detection → Prop)
    (something : let findings := plugin.fieldFindings transaction
      shows ⟨findings.versions, findings.names, findings.evidence⟩ →
        ¬ (findings.versions = [] ∧ findings.names = [] ∧ findings.indicated = false)) :
    (∃ detection, detector.ReportsSample engine plugin sample field detection ∧ shows detection) ↔
      let findings := plugin.fieldFindings transaction
      shows ⟨findings.versions, findings.names, findings.evidence⟩ := by
  obtain ⟨result, passed, reported⟩ :=
    detector.detectPlugin_of_no_scripts engine transaction unscripted
  have own := (reported plugin.name).trans (if_pos rfl)
  rw [← Findings.exists_resolved_iff (plugin.fieldFindings_script transaction)
    detector.config.scriptPrecedence something]
  simp only [ReportsSample, made, passed, own, Except.ok.injEq, exists_eq_left', exists_and_left]

theorem exists_version_iff (declared : field ∈ sample.fields) (version : String) :
    (∃ detection, detector.ReportsSample engine plugin sample field detection ∧
      version ∈ detection.versions) ↔
      version ∈ extractVersions (plugin.sampleFragments sample field .matchers) := by
  obtain ⟨transaction, made, -⟩ := Sample.transaction_of_mem_fields declared
  rw [detector.exists_reportsSample_iff engine unscripted made (version ∈ ·.versions)
    fun shown nothing => List.ne_nil_of_mem shown nothing.1]
  simp only [plugin.fieldFindings_versions, Plugin.sampleFragments, made]

theorem exists_name_iff (declared : field ∈ sample.fields) (name : String) :
    (∃ detection, detector.ReportsSample engine plugin sample field detection ∧
      name ∈ detection.names) ↔
      name ∈ extractNames (plugin.sampleFragments sample field .modularMatchers) := by
  obtain ⟨transaction, made, -⟩ := Sample.transaction_of_mem_fields declared
  rw [detector.exists_reportsSample_iff engine unscripted made (name ∈ ·.names)
    fun shown nothing => List.ne_nil_of_mem shown nothing.2.1]
  simp only [plugin.fieldFindings_names, Plugin.sampleFragments, made]

theorem exists_indicator_iff (declared : field ∈ sample.fields) :
    (∃ detection, detector.ReportsSample engine plugin sample field detection ∧
      detection.ShowsIndicator) ↔
      plugin.sampleFragments sample field .indicators ≠ [] := by
  obtain ⟨transaction, made, -⟩ := Sample.transaction_of_mem_fields declared
  have shown : (∃ record ∈ (plugin.fieldFindings transaction).evidence, ∃ field,
      record.source = .field field .indicators) ↔
      Observation.fragmentsOf .indicators (plugin.observations transaction) ≠ [] := by
    rw [plugin.fieldFindings_evidence, Observation.exists_indicator_iff]
  rw [detector.exists_reportsSample_iff engine unscripted made (·.ShowsIndicator),
    Detection.ShowsIndicator, shown]
  · simp only [Plugin.sampleFragments, made]
  · intro findings indicator nothing
    have silent := (plugin.fieldFindings_indicated transaction).symm.trans nothing.2.2
    rw [Bool.not_eq_false', List.isEmpty_iff] at silent
    exact shown.mp indicator silent

end

end Detector

/-! ### Checks -/

namespace Plugin

variable (plugin : Plugin)

theorem checkMatch_eq {given : FieldExample} {expected : String} {field : Field}
    (versioned : given.version = some expected) (primary : given.sample.primaryField = .ok field) :
    plugin.checkMatch given =
      let found : Extracted :=
        .versions (extractVersions (plugin.sampleFragments given.sample field .matchers))
      .ok (if found.contains expected then none
        else some (.versionMissed field expected found)) := by
  simp only [checkMatch, versioned, primary, bind, Except.bind,
    plugin.extractSample_eq (Sample.mem_fields_of_primaryField primary)]
  rfl

theorem checkIndicator_eq {given : FieldExample} {field : Field}
    (primary : given.sample.primaryField = .ok field) :
    plugin.checkIndicator given =
      .ok (if (plugin.sampleFragments given.sample field .indicators).isEmpty then
        some (.indicatorMissed field) else none) := by
  simp only [checkIndicator, primary, bind, Except.bind,
    plugin.extractSample_eq (Sample.mem_fields_of_primaryField primary), Extraction.run,
    Extracted.isEmpty, showsPresence, Bool.not_not]
  rfl

/-- Searches in declared fields are made until one succeeds, and none fails. -/
theorem anySucceeds_eq {sample : Sample} {searches : List Search}
    (declared : ∀ search ∈ searches, search.field ∈ sample.fields) :
    plugin.anySucceeds sample searches =
      .ok (searches.any fun search =>
        (search.extraction.run
          (plugin.sampleFragments sample search.field search.category)).contains
            search.expected) := by
  induction searches with
  | nil => rfl
  | cons search rest ih =>
    rw [anySucceeds, plugin.extractSample_eq (declared search List.mem_cons_self),
      ih fun other member => declared other (List.mem_cons_of_mem search member), List.any_cons]
    simp only [bind, Except.bind]
    cases (search.extraction.run
      (plugin.sampleFragments sample search.field search.category)).contains search.expected <;> rfl

theorem field_of_mem_modularSearches {given : ModularExample} {search : Search}
    (member : search ∈ modularSearches given) : search.field ∈ given.sample.fields := by
  rcases List.mem_append.mp member with byName | byVersion
  · obtain ⟨field, declared, rfl⟩ := List.mem_map.mp byName
    exact declared
  · cases versioned : given.version with
    | none =>
      rw [versioned] at byVersion
      cases byVersion
    | some version =>
      rw [versioned] at byVersion
      obtain ⟨field, declared, rfl⟩ := List.mem_map.mp byVersion
      exact declared

theorem checkModular_eq (given : ModularExample) :
    plugin.checkModular given =
      .ok (if (modularSearches given).any fun search =>
          (search.extraction.run
            (plugin.sampleFragments given.sample search.field search.category)).contains
              search.expected
        then none else some (.nothingFound (given.software :: given.version.toList))) := by
  rw [checkModular, plugin.anySucceeds_eq fun _ member => field_of_mem_modularSearches member]
  simp only [bind, Except.bind]
  split <;> rfl

/-- The software is looked for by name and by version, and one of the two is enough. -/
theorem any_modularSearches_iff {given : ModularExample} :
    ((modularSearches given).any fun search =>
      (search.extraction.run
        (plugin.sampleFragments given.sample search.field search.category)).contains
          search.expected) ↔
      ∃ field ∈ given.sample.fields,
        given.software ∈ extractNames (plugin.sampleFragments given.sample field .modularMatchers) ∨
          ∃ version, given.version = some version ∧
            version ∈ extractVersions (plugin.sampleFragments given.sample field .matchers) := by
  cases versioned : given.version with
  | none => simp [modularSearches, versioned, Extraction.run, Extracted.contains]
  | some version =>
    simp [modularSearches, versioned, Extraction.run, Extracted.contains, and_or_left, exists_or]

theorem checkMatch_eq_ok_none_iff {given : FieldExample} :
    plugin.checkMatch given = .ok none ↔
      ∃ expected field, given.version = some expected ∧ given.sample.primaryField = .ok field ∧
        expected ∈ extractVersions (plugin.sampleFragments given.sample field .matchers) := by
  cases versioned : given.version with
  | none => simp [checkMatch, versioned]
  | some expected =>
    cases primary : given.sample.primaryField with
    | error cause => simp [checkMatch, versioned, primary, bind, Except.bind]
    | ok field =>
      rw [plugin.checkMatch_eq versioned primary]
      simp [Extracted.contains]

theorem checkIndicator_eq_ok_none_iff {given : FieldExample} :
    plugin.checkIndicator given = .ok none ↔
      ∃ field, given.sample.primaryField = .ok field ∧
        plugin.sampleFragments given.sample field .indicators ≠ [] := by
  cases primary : given.sample.primaryField with
  | error cause => simp [checkIndicator, primary, bind, Except.bind]
  | ok field =>
    rw [plugin.checkIndicator_eq primary]
    simp

theorem checkModular_eq_ok_none_iff {given : ModularExample} :
    plugin.checkModular given = .ok none ↔
      ∃ field ∈ given.sample.fields,
        given.software ∈ extractNames (plugin.sampleFragments given.sample field .modularMatchers) ∨
          ∃ version, given.version = some version ∧
            version ∈ extractVersions (plugin.sampleFragments given.sample field .matchers) := by
  rw [← plugin.any_modularSearches_iff, plugin.checkModular_eq]
  simp

theorem checkMatch_eq_error_iff {given : FieldExample} {failure : Failure} :
    plugin.checkMatch given = .error failure ↔
      failure = .sampleEmpty ∧ given.version.isSome ∧ given.sample.fields = [] := by
  cases versioned : given.version with
  | none => simp [checkMatch, versioned]
  | some expected =>
    cases primary : given.sample.primaryField with
    | error cause =>
      obtain ⟨rfl, empty⟩ := Sample.primaryField_eq_error_iff.mp primary
      simp [checkMatch, versioned, primary, bind, Except.bind, empty, eq_comm]
    | ok field =>
      rw [plugin.checkMatch_eq versioned primary]
      simp [List.ne_nil_of_mem (Sample.mem_fields_of_primaryField primary)]

theorem checkIndicator_eq_error_iff {given : FieldExample} {failure : Failure} :
    plugin.checkIndicator given = .error failure ↔
      failure = .sampleEmpty ∧ given.sample.fields = [] := by
  cases primary : given.sample.primaryField with
  | error cause =>
    obtain ⟨rfl, empty⟩ := Sample.primaryField_eq_error_iff.mp primary
    simp [checkIndicator, primary, bind, Except.bind, empty, eq_comm]
  | ok field =>
    rw [plugin.checkIndicator_eq primary]
    simp [List.ne_nil_of_mem (Sample.mem_fields_of_primaryField primary)]

end Plugin

/-- Checks say what detection says. For a plugin without script matchers, an example of a version is
accepted exactly if detection on the primary field of its sample reports the version, an example of
presence if detection on the primary field shows an indicator, and an example of software if
detection on one of the declared fields reports its name or its version. The only failure of a check
is that of a sample without fields whose primary field is asked for; what is declared is always
found in the transaction that is made of it. -/
theorem Detector.checks_agree_with_detection (detector : Detector) (engine : ScriptEngine)
    {plugin : Plugin} (unscripted : plugin.scriptMatchers = []) :
    (∀ sample : Sample, ∀ field ∈ sample.fields, ∃ transaction result,
      sample.transaction field = .ok transaction ∧
        detector.detectPlugin engine transaction plugin = .ok result) ∧
    (∀ given : FieldExample, plugin.checkMatch given = .ok none ↔
      ∃ expected field, given.version = some expected ∧
        given.sample.primaryField = .ok field ∧
        ∃ detection, detector.ReportsSample engine plugin given.sample field detection ∧
          expected ∈ detection.versions) ∧
    (∀ given : FieldExample, plugin.checkIndicator given = .ok none ↔
      ∃ field, given.sample.primaryField = .ok field ∧
        ∃ detection, detector.ReportsSample engine plugin given.sample field detection ∧
          detection.ShowsIndicator) ∧
    (∀ given : ModularExample, plugin.checkModular given = .ok none ↔
      ∃ field ∈ given.sample.fields,
        ∃ detection, detector.ReportsSample engine plugin given.sample field detection ∧
          (given.software ∈ detection.names ∨
            ∃ version, given.version = some version ∧ version ∈ detection.versions)) ∧
    (∀ given failure, plugin.checkMatch given = .error failure ↔
      failure = .sampleEmpty ∧ given.version.isSome ∧ given.sample.fields = []) ∧
    (∀ given failure, plugin.checkIndicator given = .error failure ↔
      failure = .sampleEmpty ∧ given.sample.fields = []) ∧
    ∀ given failure, plugin.checkModular given ≠ .error failure := by
  refine ⟨fun sample field declared => ?_, fun given => ?_, fun given => ?_, fun given => ?_,
    fun _ _ => plugin.checkMatch_eq_error_iff, fun _ _ => plugin.checkIndicator_eq_error_iff,
    fun given failure => ?_⟩
  · obtain ⟨transaction, made, -⟩ := Sample.transaction_of_mem_fields declared
    obtain ⟨result, passed, -⟩ :=
      detector.detectPlugin_of_no_scripts engine transaction unscripted
    exact ⟨transaction, result, made, passed⟩
  · rw [plugin.checkMatch_eq_ok_none_iff]
    refine exists_congr fun expected => exists_congr fun field =>
      and_congr_right fun _ => and_congr_right fun primary => ?_
    exact (detector.exists_version_iff engine unscripted
      (Sample.mem_fields_of_primaryField primary) expected).symm
  · rw [plugin.checkIndicator_eq_ok_none_iff]
    refine exists_congr fun field => and_congr_right fun primary => ?_
    exact (detector.exists_indicator_iff engine unscripted
      (Sample.mem_fields_of_primaryField primary)).symm
  · rw [plugin.checkModular_eq_ok_none_iff]
    refine exists_congr fun field => and_congr_right fun declared => ?_
    have byVersion : (∃ detection,
          detector.ReportsSample engine plugin given.sample field detection ∧
            ∃ version, given.version = some version ∧ version ∈ detection.versions) ↔
        ∃ version, given.version = some version ∧
          version ∈ extractVersions (plugin.sampleFragments given.sample field .matchers) := by
      simp only [← detector.exists_version_iff engine unscripted declared]
      constructor
      · rintro ⟨detection, reported, version, versioned, member⟩
        exact ⟨version, versioned, detection, reported, member⟩
      · rintro ⟨version, versioned, detection, reported, member⟩
        exact ⟨detection, reported, version, versioned, member⟩
    simp only [and_or_left, exists_or, byVersion,
      detector.exists_name_iff engine unscripted declared]
  · rw [plugin.checkModular_eq]
    exact nofun

namespace DigitPage

/-- An address with two versions. -/
def sample : Sample := ⟨some "v1 v2", none, none⟩

/-- The address behind a text in which nothing is found. -/
def coveredSample : Sample := ⟨some "v1 v2", some "v", none⟩

end DigitPage

theorem Detector.checks_agree_with_detection_digitPage :
    let detector : Detector := .standard .empty
    let plugin := DigitPage.plugin []
    plugin.scriptMatchers = [] ∧
    (∃ detection, detector.ReportsSample Script.engine plugin DigitPage.sample .url detection ∧
      "2" ∈ detection.versions) ∧
    ¬ ∃ detection,
      detector.ReportsSample Script.engine plugin DigitPage.coveredSample .body detection ∧
        detection.ShowsIndicator := by
  intro detector plugin
  have unscripted : plugin.scriptMatchers = [] := rfl
  obtain ⟨-, checkMatch, checkIndicator, -⟩ :=
    detector.checks_agree_with_detection Script.engine unscripted
  have accepted : plugin.checkMatch ⟨DigitPage.sample, some "2"⟩ = .ok none := by cbv
  have refused : plugin.checkIndicator ⟨DigitPage.coveredSample, none⟩ =
      .ok (some (.indicatorMissed .body)) := by cbv
  refine ⟨unscripted, ?_, fun shown => ?_⟩
  · obtain ⟨expected, field, versioned, primary, reported⟩ := (checkMatch _).mp accepted
    cases versioned
    cases primary
    exact reported
  · have wrong := (checkIndicator ⟨DigitPage.coveredSample, none⟩).mpr ⟨.body, rfl, shown⟩
    rw [refused] at wrong
    cases wrong

end Fingerprint
