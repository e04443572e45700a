import Fingerprint.Proofs.ScriptExamples

/-!
Where reported values come from.

Findings keep account of their evidence: whatever is added to them, and in whatever order, the
versions and names are the distinct values of the records. So a detection is a function of its
evidence and of the precedence, and every value that it reports is recorded and clean.
-/

set_option autoImplicit false

namespace Fingerprint

/-! ### Values of records -/

namespace Evidence

/-- The value of a record of a category. -/
def valueIn? (category : Category) (record : Evidence) : Option String :=
  match record.source with
  | .field _ recorded => if recorded = category then record.value else none
  | .script => none

/-- The version of a script record without what is cut off, if there is anything left of it. -/
def scriptVersion? (record : Evidence) : Option String :=
  match record.source with
  | .field .. => none
  | .script => (record.value.map normalizeVersion).filter (· ≠ "")

theorem valueIn?_eq_some_iff {category : Category} {record : Evidence} {value : String} :
    record.valueIn? category = some value ↔
      ∃ field matcher, record = ⟨.field field category, matcher, some value⟩ := by
  rcases record with ⟨source, matcher, recorded⟩
  cases source with
  | script => simp [valueIn?]
  | field field other =>
    by_cases same : other = category
    · simp [valueIn?, same]
    · simp [valueIn?, same]

theorem scriptVersion?_eq_some_iff {record : Evidence} {version : String} :
    record.scriptVersion? = some version ↔ version ≠ "" ∧
      ∃ matcher raw, record = ⟨.script, matcher, some raw⟩ ∧ normalizeVersion raw = version := by
  rcases record with ⟨source, matcher, recorded⟩
  cases source with
  | field field category => simp [scriptVersion?]
  | script =>
    simp only [scriptVersion?, Option.filter_eq_some_iff, Option.map_eq_some_iff, mk.injEq,
      true_and, decide_eq_true_eq]
    grind

end Evidence

/-- The distinct values of the records of a category, in the order in which they were found. -/
def valuesIn (category : Category) (evidence : List Evidence) : List String :=
  (evidence.filterMap (·.valueIn? category)).eraseDups

/-- The versions of script records. -/
def scriptVersionsIn (evidence : List Evidence) : List String :=
  evidence.filterMap (·.scriptVersion?)

theorem valuesIn_append (category : Category) (evidence further : List Evidence) :
    valuesIn category (evidence ++ further) =
      (further.filterMap (·.valueIn? category)).foldl pushDistinct (valuesIn category evidence) := by
  rw [valuesIn, List.filterMap_append, ← foldl_pushDistinct_nil, List.foldl_append,
    foldl_pushDistinct_nil, valuesIn]

theorem nodup_valuesIn (category : Category) (evidence : List Evidence) :
    (valuesIn category evidence).Nodup := by
  rw [valuesIn, ← foldl_pushDistinct_nil]
  exact nodup_foldl_pushDistinct List.nodup_nil _

theorem scriptVersionsIn_append (evidence further : List Evidence) :
    scriptVersionsIn (evidence ++ further) =
      scriptVersionsIn evidence ++ scriptVersionsIn further :=
  List.filterMap_append

theorem scriptVersionsIn_singleton (record : Evidence) :
    scriptVersionsIn [record] = record.scriptVersion?.toList := by
  cases version : record.scriptVersion? with
  | none => simp [scriptVersionsIn, version]
  | some version => simp [scriptVersionsIn, version]

/-- Only script records matter. -/
theorem scriptVersionsIn_filter (evidence : List Evidence) :
    scriptVersionsIn (evidence.filter (·.source = .script)) = scriptVersionsIn evidence := by
  rw [scriptVersionsIn, List.filterMap_filter, scriptVersionsIn]
  refine List.filterMap_congr fun record _ => ?_
  rcases record with ⟨source, matcher, value⟩
  cases source with
  | field field category => rfl
  | script => rfl

/-! ### Calls -/

/-- A call that records what was found. -/
inductive Finding where
  | versions (field : Field) (matcher : Nat) (values : List String)
  | names (field : Field) (matcher : Nat) (values : List String)
  | indicator (field : Field) (matcher : Nat)
  | script (finding : ScriptFinding)

namespace Finding

/-- The versions or names that a call adds. -/
def values : Category → Finding → List String
  | .matchers, .versions _ _ values => values
  | .modularMatchers, .names _ _ values => values
  | _, _ => []

def script? : Finding → Option ScriptFinding
  | .script finding => some finding
  | _ => none

def isIndicator : Finding → Bool
  | .indicator _ _ => true
  | _ => false

/-- The records that a call leaves. A script leaves none if there was one before. -/
def evidence (scripted : Bool) : Finding → List Evidence
  | .versions field matcher values =>
    values.map fun version => ⟨.field field .matchers, matcher, some version⟩
  | .names field matcher values =>
    values.map fun name => ⟨.field field .modularMatchers, matcher, some name⟩
  | .indicator field matcher => [⟨.field field .indicators, matcher, none⟩]
  | .script finding => if scripted then [] else [finding.evidence]

/-- The records that calls leave. -/
def evidenceOf (scripted : Bool) : List Finding → List Evidence
  | [] => []
  | call :: rest => call.evidence scripted ++ evidenceOf (scripted || call.script?.isSome) rest

theorem filterMap_evidence (call : Finding) (scripted : Bool) (category : Category) :
    (call.evidence scripted).filterMap (·.valueIn? category) = call.values category := by
  cases call with
  | versions field matcher values =>
    cases category <;> simp [evidence, Finding.values, List.filterMap_map, Evidence.valueIn?]
  | names field matcher values =>
    cases category <;> simp [evidence, Finding.values, List.filterMap_map, Evidence.valueIn?]
  | indicator field matcher => cases category <;> rfl
  | script finding => cases scripted <;> cases category <;> rfl

theorem evidence_eq_nil_iff {call : Finding} {scripted : Bool} :
    call.evidence scripted = [] ↔ call.values .matchers = [] ∧ call.values .modularMatchers = [] ∧
      call.isIndicator = false ∧ (scripted ∨ call.script? = none) := by
  cases call with
  | versions field matcher values => simp [evidence, Finding.values, isIndicator, script?]
  | names field matcher values => simp [evidence, Finding.values, isIndicator, script?]
  | indicator field matcher => simp [evidence, isIndicator]
  | script finding => cases scripted <;> simp [evidence, Finding.values, isIndicator, script?]

/-- Only a script leaves a script record. -/
theorem filter_evidence (call : Finding) (scripted : Bool) :
    (call.evidence scripted).filter (·.source = .script) =
      if scripted then [] else (call.script?.map ScriptFinding.evidence).toList := by
  cases call with
  | versions field matcher values => simp [evidence, script?, List.filter_map]
  | names field matcher values => simp [evidence, script?, List.filter_map]
  | indicator field matcher => cases scripted <;> rfl
  | script finding => cases scripted <;> rfl

end Finding

namespace Findings

/-- What was found after a call. -/
def add (findings : Findings) : Finding → Findings
  | .versions field matcher values => findings.addVersions field matcher values
  | .names field matcher values => findings.addNames field matcher values
  | .indicator field matcher => findings.addIndicator field matcher
  | .script finding => findings.setScript finding

/-- What was found after calls that are made one after the other. -/
def addAll (findings : Findings) (calls : List Finding) : Findings := calls.foldl add findings

variable (findings : Findings) (call : Finding)

theorem add_versions :
    (findings.add call).versions =
      (call.values .matchers).foldl pushDistinct findings.versions := by
  cases call with
  | script finding => cases found : findings.script <;> simp [add, setScript, found, Finding.values]
  | _ => rfl

theorem add_names :
    (findings.add call).names =
      (call.values .modularMatchers).foldl pushDistinct findings.names := by
  cases call with
  | script finding => cases found : findings.script <;> simp [add, setScript, found, Finding.values]
  | _ => rfl

theorem add_indicated :
    (findings.add call).indicated = (findings.indicated || call.isIndicator) := by
  cases call with
  | script finding =>
    cases found : findings.script <;> simp [add, setScript, found, Finding.isIndicator]
  | indicator field matcher => exact (Bool.or_true _).symm
  | _ => exact (Bool.or_false _).symm

/-- The first script counts. -/
theorem add_script : (findings.add call).script = findings.script.or call.script? := by
  cases call with
  | script finding =>
    cases found : findings.script <;> simp [add, setScript, found, Finding.script?]
  | _ => exact (Option.or_none).symm

theorem add_evidence :
    (findings.add call).evidence =
      findings.evidence ++ call.evidence findings.script.isSome := by
  cases call with
  | script finding =>
    cases found : findings.script <;>
      simp [add, setScript, found, Finding.evidence, ScriptFinding.evidence]
  | _ => rfl

variable (calls : List Finding)

theorem addAll_evidence :
    (findings.addAll calls).evidence =
      findings.evidence ++ Finding.evidenceOf findings.script.isSome calls := by
  induction calls generalizing findings with
  | nil => exact (List.append_nil _).symm
  | cons call rest ih =>
    change ((findings.add call).addAll rest).evidence = _
    rw [ih, add_evidence, add_script, Option.isSome_or, List.append_assoc]
    rfl

end Findings

/-- The one script record is that of the first script. -/
theorem Finding.filter_evidenceOf (calls : List Finding) (scripted : Bool) :
    (evidenceOf scripted calls).filter (·.source = .script) =
      if scripted then []
      else ((calls.findSome? script?).map ScriptFinding.evidence).toList := by
  induction calls generalizing scripted with
  | nil => cases scripted <;> rfl
  | cons call rest ih =>
    rw [evidenceOf, List.filter_append, filter_evidence, ih, List.findSome?_cons]
    cases scripted with
    | true => rfl
    | false =>
      cases call.script? with
      | none => rfl
      | some finding => rfl

/-! ### Findings keep account -/

namespace Findings

/-- Whether all that findings say follows from their evidence. -/
structure Accounted (findings : Findings) : Prop where
  versions : findings.versions = valuesIn .matchers findings.evidence
  names : findings.names = valuesIn .modularMatchers findings.evidence
  script : findings.scriptVersions = scriptVersionsIn findings.evidence
  silent : findings.evidence = [] ↔ findings.versions = [] ∧ findings.names = [] ∧
    findings.indicated = false ∧ findings.script = none

theorem empty_accounted : empty.Accounted :=
  ⟨rfl, rfl, rfl, fun _ => ⟨rfl, rfl, rfl, rfl⟩, fun _ => rfl⟩

theorem scriptVersions_eq (findings : Findings) :
    findings.scriptVersions =
      scriptVersionsIn (findings.script.map ScriptFinding.evidence).toList := by
  rw [scriptVersions]
  cases findings.script with
  | none => rfl
  | some finding =>
    rcases finding with ⟨matcher, version⟩
    cases version with
    | none => rfl
    | some version =>
      rw [Option.map_some, Option.toList_some, scriptVersionsIn_singleton]
      by_cases empty : normalizeVersion version = ""
      · simp [Evidence.scriptVersion?, ScriptFinding.evidence, empty]
      · simp [Evidence.scriptVersion?, ScriptFinding.evidence, Option.filter, empty]

/-- Whatever is called, all that findings say still follows from their evidence. -/
theorem add_accounted {findings : Findings} (accounted : findings.Accounted) (call : Finding) :
    (findings.add call).Accounted := by
  refine ⟨?_, ?_, ?_, ?_⟩
  · rw [add_evidence, valuesIn_append, call.filterMap_evidence, ← accounted.versions, add_versions]
  · rw [add_evidence, valuesIn_append, call.filterMap_evidence, ← accounted.names, add_names]
  · rw [add_evidence, scriptVersionsIn_append, ← accounted.script, scriptVersions_eq,
      scriptVersions_eq, add_script, ← scriptVersionsIn_filter (call.evidence _),
      call.filter_evidence]
    -- A script behind another one changes neither side.
    cases findings.script with
    | none => rfl
    | some finding => exact (List.append_nil _).symm
  · rw [add_evidence, List.append_eq_nil_iff, accounted.silent, call.evidence_eq_nil_iff,
      add_versions, add_names, add_indicated, add_script, foldl_pushDistinct_eq_nil_iff,
      foldl_pushDistinct_eq_nil_iff, Bool.or_eq_false_iff, Option.or_eq_none_iff]
    cases findings.script with
    | none => tauto
    | some finding => tauto

theorem addAll_accounted {findings : Findings} (accounted : findings.Accounted)
    (calls : List Finding) : (findings.addAll calls).Accounted := by
  induction calls generalizing findings with
  | nil => exact accounted
  | cons call rest ih => exact ih (add_accounted accounted call)

theorem observe_accounted {findings : Findings} (accounted : findings.Accounted)
    (observation : Observation) : (findings.observe observation).Accounted := by
  rcases observation with ⟨category, field, matcher, fragments⟩
  cases category with
  | matchers => exact add_accounted accounted (.versions field matcher (extractVersions fragments))
  | modularMatchers => exact add_accounted accounted (.names field matcher (extractNames fragments))
  | indicators =>
    cases fragments with
    | nil => exact accounted
    | cons _ _ => exact add_accounted accounted (.indicator field matcher)

theorem observeAll_accounted {findings : Findings} (accounted : findings.Accounted)
    (observations : List Observation) : (findings.observeAll observations).Accounted := by
  induction observations generalizing findings with
  | nil => exact accounted
  | cons observation rest ih => exact ih (observe_accounted accounted observation)

theorem addProbe_accounted {findings : Findings} (accounted : findings.Accounted)
    (outcome : ProbeOutcome) : (findings.addProbe outcome).Accounted := by
  cases outcome with
  | noMatch => exact accounted
  | scriptFailed fault => exact accounted
  | matched matcher version => exact add_accounted accounted (.script ⟨matcher, version⟩)

end Findings

/-- At most one version comes from scripts. -/
theorem Findings.scriptVersions_cases (findings : Findings) :
    findings.scriptVersions = [] ∨ ∃ version, findings.scriptVersions = [version] := by
  rw [scriptVersions]
  split
  next => exact .inl rfl
  next version _ =>
    dsimp only
    split
    · exact .inl rfl
    · exact .inr ⟨_, rfl⟩

theorem Findings.nodup_scriptVersions (findings : Findings) : findings.scriptVersions.Nodup := by
  rcases findings.scriptVersions_cases with empty | ⟨version, single⟩
  · rw [empty]
    exact List.nodup_nil
  · rw [single]
    exact List.nodup_singleton version

/-! ### Detections -/

theorem mergeVersions_eq_nil_iff {fieldVersions scriptVersions : List String}
    {precedence : ScriptPrecedence} :
    mergeVersions fieldVersions scriptVersions precedence = [] ↔
      fieldVersions = [] ∧ scriptVersions = [] := by
  cases precedence with
  | fieldFirst => cases fieldVersions <;> simp [mergeVersions]
  | scriptFirst => cases scriptVersions <;> simp [mergeVersions]
  | merge => rw [mergeVersions, foldl_pushDistinct_eq_nil_iff]

/-- Every version that counts was found in a field or by a script. -/
theorem mem_or_mem_of_mem_mergeVersions {fieldVersions scriptVersions : List String}
    {precedence : ScriptPrecedence} {version : String}
    (member : version ∈ mergeVersions fieldVersions scriptVersions precedence) :
    version ∈ fieldVersions ∨ version ∈ scriptVersions := by
  cases precedence with
  | fieldFirst =>
    rw [mergeVersions] at member
    split at member
    · exact .inr member
    · exact .inl member
  | scriptFirst =>
    rw [mergeVersions] at member
    split at member
    · exact .inl member
    · exact .inr member
  | merge => exact mem_foldl_pushDistinct.mp member

theorem nodup_mergeVersions {fieldVersions scriptVersions : List String}
    (fields : fieldVersions.Nodup) (scripts : scriptVersions.Nodup)
    (precedence : ScriptPrecedence) :
    (mergeVersions fieldVersions scriptVersions precedence).Nodup := by
  cases precedence with
  | fieldFirst =>
    rw [mergeVersions]
    split
    · exact scripts
    · exact fields
  | scriptFirst =>
    rw [mergeVersions]
    split
    · exact fields
    · exact scripts
  | merge => exact nodup_foldl_pushDistinct fields scriptVersions

/-- Something is reported exactly if there is evidence, whatever the precedence. -/
theorem Findings.Accounted.resolve_eq {findings : Findings} (accounted : findings.Accounted)
    (precedence : ScriptPrecedence) :
    findings.resolve precedence =
      if findings.evidence = [] then none
      else some ⟨mergeVersions findings.versions findings.scriptVersions precedence,
        findings.names, findings.evidence⟩ := by
  have merged : mergeVersions findings.versions findings.scriptVersions precedence = [] ↔
      findings.versions = [] ∧ findings.scriptVersions = [] := mergeVersions_eq_nil_iff
  have unscripted : findings.script = none → findings.scriptVersions = [] := by
    intro nothing
    rw [scriptVersions, nothing]
    rfl
  have absent : (mergeVersions findings.versions findings.scriptVersions precedence).isEmpty &&
      findings.names.isEmpty && !findings.indicated && findings.script.isNone ↔
        findings.evidence = [] := by
    rw [accounted.silent]
    simp only [Bool.and_eq_true, List.isEmpty_iff, Bool.not_eq_true', Option.isNone_iff_eq_none,
      merged]
    tauto
  rw [resolve]
  simp only [absent]

theorem Findings.Accounted.resolve_eq_some_iff {findings : Findings}
    (accounted : findings.Accounted) {precedence : ScriptPrecedence} {detection : Detection} :
    findings.resolve precedence = some detection ↔
      findings.evidence ≠ [] ∧
        ⟨mergeVersions findings.versions findings.scriptVersions precedence, findings.names,
          findings.evidence⟩ = detection := by
  rw [accounted.resolve_eq]
  split
  next empty => exact ⟨nofun, fun found => absurd empty found.1⟩
  next inhabited => rw [Option.some.injEq, and_iff_right inhabited]

/-- The versions that count: those of the source that comes first if it has any, else those of the
other one, or all of them. -/
def ScriptPrecedence.choose (fields scripts : List String) : ScriptPrecedence → List String
  | .fieldFirst => if fields = [] then scripts else fields
  | .scriptFirst => if scripts = [] then fields else scripts
  | .merge => (fields ++ scripts).eraseDups

/-- The detection that evidence amounts to, if there is any. -/
def Detection.ofEvidence? (evidence : List Evidence) (precedence : ScriptPrecedence) :
    Option Detection :=
  if evidence = [] then none
  else some {
    versions := precedence.choose (valuesIn .matchers evidence) (scriptVersionsIn evidence)
    names := valuesIn .modularMatchers evidence
    evidence }

theorem mergeVersions_valuesIn (evidence : List Evidence) (scriptVersions : List String)
    (precedence : ScriptPrecedence) :
    mergeVersions (valuesIn .matchers evidence) scriptVersions precedence =
      precedence.choose (valuesIn .matchers evidence) scriptVersions := by
  cases precedence with
  | fieldFirst => simp [mergeVersions, ScriptPrecedence.choose]
  | scriptFirst => simp [mergeVersions, ScriptPrecedence.choose]
  | merge =>
    rw [mergeVersions, ScriptPrecedence.choose, ← foldl_pushDistinct_nil, List.foldl_append,
      valuesIn, ← foldl_pushDistinct_nil, foldl_pushDistinct_foldl]
    rfl

theorem Findings.Accounted.resolve_eq_ofEvidence? {findings : Findings}
    (accounted : findings.Accounted) (precedence : ScriptPrecedence) :
    findings.resolve precedence = Detection.ofEvidence? findings.evidence precedence := by
  rw [accounted.resolve_eq, Detection.ofEvidence?, accounted.versions, accounted.names,
    accounted.script, mergeVersions_valuesIn]

theorem Detection.ofEvidence?_eq_none_iff {evidence : List Evidence}
    {precedence : ScriptPrecedence} :
    ofEvidence? evidence precedence = none ↔ evidence = [] := by
  simp [ofEvidence?]

/-- Whatever is called, and however often: the evidence is what the calls leave, and the findings
amount to what their evidence amounts to, which is nothing exactly if there is no evidence. The
script record is that of the first script; what is left of its version is the script's version.
No version and no name is reported twice. -/
theorem Findings.resolve_addAll (calls : List Finding) (precedence : ScriptPrecedence) :
    let findings := empty.addAll calls
    let first := calls.findSome? Finding.script?
    findings.evidence = Finding.evidenceOf false calls ∧
    findings.resolve precedence = Detection.ofEvidence? findings.evidence precedence ∧
    (findings.resolve precedence = none ↔ findings.evidence = []) ∧
    findings.evidence.filter (·.source = .script) = (first.map ScriptFinding.evidence).toList ∧
    scriptVersionsIn findings.evidence =
      (((first.bind (·.version)).map normalizeVersion).filter (· ≠ "")).toList ∧
    ∀ detection, findings.resolve precedence = some detection →
      detection.versions.Nodup ∧ detection.names.Nodup := by
  intro findings first
  have accounted : findings.Accounted := addAll_accounted empty_accounted calls
  have resolved := accounted.resolve_eq_ofEvidence? precedence
  have gathered : findings.evidence = Finding.evidenceOf false calls := addAll_evidence empty calls
  have scripts := Finding.filter_evidenceOf calls false
  rw [← gathered] at scripts
  refine ⟨gathered, resolved, ?_, scripts, ?_, fun detection found => ?_⟩
  · rw [resolved, Detection.ofEvidence?_eq_none_iff]
  · rw [← scriptVersionsIn_filter, scripts]
    change scriptVersionsIn (first.map ScriptFinding.evidence).toList = _
    cases first with
    | none => rfl
    | some finding =>
      rw [Option.map_some, Option.toList_some, scriptVersionsIn_singleton]
      rfl
  · obtain ⟨-, rfl⟩ := accounted.resolve_eq_some_iff.mp found
    rw [accounted.versions, accounted.names]
    exact ⟨nodup_mergeVersions (nodup_valuesIn _ _) findings.nodup_scriptVersions precedence,
      nodup_valuesIn _ _⟩

theorem Plugin.fieldFindings_accounted (plugin : Plugin) (transaction : Transaction) :
    (plugin.fieldFindings transaction).Accounted := by
  rw [plugin.fieldFindings_eq_observeAll]
  exact Findings.observeAll_accounted Findings.empty_accounted _

/-- What a plugin's findings in fields amount to: its evidence, and the distinct values in it. -/
theorem Plugin.resolve_fieldFindings (plugin : Plugin) (transaction : Transaction)
    (precedence : ScriptPrecedence) :
    (plugin.fieldFindings transaction).resolve precedence =
      if (plugin.fieldFindings transaction).evidence = [] then none
      else some {
        versions := valuesIn .matchers (plugin.fieldFindings transaction).evidence
        names := valuesIn .modularMatchers (plugin.fieldFindings transaction).evidence
        evidence := (plugin.fieldFindings transaction).evidence } := by
  have accounted := plugin.fieldFindings_accounted transaction
  have unscripted : (plugin.fieldFindings transaction).scriptVersions = [] := by
    rw [Findings.scriptVersions, plugin.fieldFindings_script]
    rfl
  rw [accounted.resolve_eq, unscripted, mergeVersions_nil, accounted.versions, accounted.names]

namespace Detector

variable (detector : Detector) (engine : ScriptEngine) (transaction : Transaction)

/-- What a pass finds of a plugin, in the fields and behind the scripts. -/
def findings (plugin : Plugin) : Except Failure Findings :=
  if plugin.scriptMatchers ≠ [] ∧ detector.blocks transaction ≠ [] then
    (detector.probe.probe engine (detector.blocks transaction) plugin.scriptMatchers).map
      (plugin.fieldFindings transaction).addProbe
  else .ok (plugin.fieldFindings transaction)

theorem evaluation_findings (plugin : Plugin) :
    (detector.evaluation engine transaction plugin).detection =
      (detector.findings engine transaction plugin).map
        (·.resolve detector.config.scriptPrecedence) := by
  rw [evaluation_detection, findings]
  split
  · cases detector.probe.probe engine (detector.blocks transaction) plugin.scriptMatchers with
    | error failure => rfl
    | ok outcome => rfl
  · rfl

variable {detector engine transaction}

/-- Findings are those in the fields with the outcome of a probe. -/
theorem exists_outcome_of_findings {plugin : Plugin} {found : Findings}
    (passed : detector.findings engine transaction plugin = .ok found) :
    ∃ outcome, found = (plugin.fieldFindings transaction).addProbe outcome := by
  rw [findings] at passed
  split at passed
  · cases probed : detector.probe.probe engine (detector.blocks transaction)
      plugin.scriptMatchers with
    | error failure =>
      rw [probed] at passed
      cases passed
    | ok outcome =>
      rw [probed] at passed
      cases passed
      exact ⟨outcome, rfl⟩
  · cases passed
    exact ⟨.noMatch, rfl⟩

theorem accounted_of_findings {plugin : Plugin} {found : Findings}
    (passed : detector.findings engine transaction plugin = .ok found) : found.Accounted := by
  obtain ⟨outcome, rfl⟩ := exists_outcome_of_findings passed
  exact Findings.addProbe_accounted (plugin.fieldFindings_accounted transaction) outcome

theorem findings_versions {plugin : Plugin} {found : Findings}
    (passed : detector.findings engine transaction plugin = .ok found) :
    found.versions =
      extractVersions (Observation.fragmentsOf .matchers (plugin.observations transaction)) := by
  obtain ⟨outcome, rfl⟩ := exists_outcome_of_findings passed
  rw [Findings.addProbe_versions, plugin.fieldFindings_versions]

theorem findings_names {plugin : Plugin} {found : Findings}
    (passed : detector.findings engine transaction plugin = .ok found) :
    found.names =
      extractNames
        (Observation.fragmentsOf .modularMatchers (plugin.observations transaction)) := by
  obtain ⟨outcome, rfl⟩ := exists_outcome_of_findings passed
  rw [Findings.addProbe_names, plugin.fieldFindings_names]

/-- A detection of a pass is what the findings of its plugin amount to. -/
theorem findings_of_mem_detections {result : DetectionResult}
    (passed : detector.detect engine transaction = .ok result) {name : String}
    {detection : Detection} (listed : (name, detection) ∈ result.detections) :
    ∃ plugin found, detector.findings engine transaction plugin = .ok found ∧
      found.resolve detector.config.scriptPrecedence = some detection := by
  obtain ⟨plugin, _, _, evaluated⟩ :=
    detector.evaluated_of_mem_detections engine transaction passed listed
  rw [evaluation_findings] at evaluated
  cases found : detector.findings engine transaction plugin with
  | error failure =>
    rw [found] at evaluated
    cases evaluated
  | ok findings =>
    rw [found] at evaluated
    exact ⟨plugin, findings, found, Except.ok.inj evaluated⟩

end Detector

/-! ### Reported values -/

theorem mem_valuesIn_iff {category : Category} {evidence : List Evidence} {value : String} :
    value ∈ valuesIn category evidence ↔
      ∃ field matcher, ⟨.field field category, matcher, some value⟩ ∈ evidence := by
  simp only [valuesIn, List.mem_eraseDups, List.mem_filterMap, Evidence.valueIn?_eq_some_iff]
  constructor
  · rintro ⟨_, member, field, matcher, rfl⟩
    exact ⟨field, matcher, member⟩
  · rintro ⟨field, matcher, member⟩
    exact ⟨_, member, field, matcher, rfl⟩

theorem mem_scriptVersionsIn_iff {evidence : List Evidence} {version : String} :
    version ∈ scriptVersionsIn evidence ↔ version ≠ "" ∧
      ∃ matcher raw, ⟨.script, matcher, some raw⟩ ∈ evidence ∧ normalizeVersion raw = version := by
  simp only [scriptVersionsIn, List.mem_filterMap, Evidence.scriptVersion?_eq_some_iff]
  constructor
  · rintro ⟨_, member, inhabited, matcher, raw, rfl, normalized⟩
    exact ⟨inhabited, matcher, raw, member, normalized⟩
  · rintro ⟨inhabited, matcher, raw, member, normalized⟩
    exact ⟨_, member, inhabited, matcher, raw, rfl, normalized⟩

namespace Detection

/-- Whether a record of a matcher for versions holds this version. -/
def FoundInField (detection : Detection) (version : String) : Prop :=
  ∃ field matcher, ⟨.field field .matchers, matcher, some version⟩ ∈ detection.evidence

/-- Whether a script record holds a version of which this is left once it is normalized. -/
def FoundByScript (detection : Detection) (version : String) : Prop :=
  ∃ matcher raw, ⟨.script, matcher, some raw⟩ ∈ detection.evidence ∧
    normalizeVersion raw = version

/-- What a reader of a detection can rely on. -/
structure Clean (detection : Detection) : Prop where
  versions_distinct : detection.versions.Nodup
  versions_normalized : ∀ version ∈ detection.versions,
    version ≠ "" ∧ normalizeVersion version = version
  versions_recorded : ∀ version ∈ detection.versions,
    detection.FoundInField version ∨ detection.FoundByScript version
  names_distinct : detection.names.Nodup
  names_trimmed : ∀ name ∈ detection.names, name ≠ "" ∧
    ∀ c, name.toList.head? = some c ∨ name.toList.getLast? = some c → ¬ Text.isBlank c
  names_recorded : detection.names = valuesIn .modularMatchers detection.evidence

end Detection

/-- In every detection of a pass the versions and the names are distinct, not empty and cut as they
are to be, each version is recorded as found in a field or by a script, and the names are those that
the records of named components hold. -/
theorem Detector.detect_clean {detector : Detector} {engine : ScriptEngine}
    {transaction : Transaction} {result : DetectionResult}
    (passed : detector.detect engine transaction = .ok result) {name : String}
    {detection : Detection} (listed : (name, detection) ∈ result.detections) :
    detection.Clean := by
  obtain ⟨plugin, found, gathered, resolved⟩ := findings_of_mem_detections passed listed
  have accounted := accounted_of_findings gathered
  have versions := findings_versions gathered
  have names := findings_names gathered
  obtain ⟨-, rfl⟩ := accounted.resolve_eq_some_iff.mp resolved
  have fields : found.versions.Nodup := by
    rw [versions]
    exact nodup_extractVersions _
  have scripts : found.scriptVersions.Nodup := found.nodup_scriptVersions
  refine ⟨nodup_mergeVersions fields scripts _, ?_, ?_, ?_, ?_, accounted.names⟩
  · intro version member
    rcases mem_or_mem_of_mem_mergeVersions member with inField | byScript
    · rw [versions] at inField
      exact (normalized_of_mem_extractVersions inField).symm
    · rw [accounted.script] at byScript
      obtain ⟨inhabited, _, raw, _, rfl⟩ := mem_scriptVersionsIn_iff.mp byScript
      exact ⟨inhabited, normalizeVersion_normalizeVersion raw⟩
  · intro version member
    rcases mem_or_mem_of_mem_mergeVersions member with inField | byScript
    · rw [accounted.versions] at inField
      exact .inl (mem_valuesIn_iff.mp inField)
    · rw [accounted.script] at byScript
      exact .inr (mem_scriptVersionsIn_iff.mp byScript).2
  · dsimp only
    rw [names]
    exact nodup_extractNames _
  · intro name member
    dsimp only at member
    rw [names] at member
    obtain ⟨trimmed, inhabited⟩ := trimmed_of_mem_extractNames member
    exact ⟨inhabited, fun c atEnd => Text.not_drop_of_trimBy Text.isBlank trimmed atEnd⟩

/-! ### An example -/

namespace QuotedScript

/-- Looks for versions in the address and behind the script, and names a component with blanks
around the name. -/
def namingPlugin : Plugin where
  name := "naming"
  homepage := none
  tags := []
  matchers :=
    ⟨⟨[DigitPage.matcher], [], []⟩, ⟨[{ DigitPage.matcher with name := some " Lib " }], [], []⟩,
      .empty⟩
  scriptMatchers := [⟨"'lib'", "'-5-'"⟩]

/-- Reports the versions of fields and of scripts. -/
def mergingDetector : Detector :=
  ⟨.insert .empty namingPlugin, { Config.standard with scriptPrecedence := .merge }⟩

def addressed : Transaction := transaction.withUrl "v1 v2 v1"

def namingEvidence : List Evidence :=
  [⟨.field .url .matchers, 0, some "1"⟩, ⟨.field .url .matchers, 0, some "2"⟩,
    ⟨.field .url .modularMatchers, 0, some "Lib"⟩]

def mergedDetection : Detection :=
  ⟨["1", "2", "5"], ["Lib"], namingEvidence ++ [⟨.script, 0, some "-5-"⟩]⟩

theorem evaluation_mergingDetector :
    (mergingDetector.evaluation engine addressed namingPlugin).detection =
      .ok (some mergedDetection) := by
  have blocks : mergingDetector.blocks addressed = ["'lib'"] := by cbv
  have probed : mergingDetector.probe.probe engine ["'lib'"] namingPlugin.scriptMatchers =
      .ok (.matched 0 (some "-5-")) := by
    cbv
  have fields : namingPlugin.fieldFindings addressed =
      ⟨["1", "2"], ["Lib"], false, none, namingEvidence⟩ := by
    cbv
  have normalized : normalizeVersion "-5-" = "5" := by cbv
  have merged : mergeVersions ["1", "2"] ["5"] .merge = ["1", "2", "5"] := by cbv
  rw [Detector.evaluation_detection, blocks, if_pos ⟨List.cons_ne_nil _ _, List.cons_ne_nil _ _⟩,
    probed, fields]
  simp [Except.map, Findings.addProbe, Findings.setScript, Findings.resolve,
    Findings.scriptVersions, normalized, mergingDetector, merged, mergedDetection]

end QuotedScript

theorem Detector.detect_clean_mergedDetection :
    ∃ result,
      QuotedScript.mergingDetector.detect QuotedScript.engine QuotedScript.addressed =
        .ok result ∧
      ("naming", QuotedScript.mergedDetection) ∈ result.detections ∧
      QuotedScript.mergedDetection.Clean := by
  have evaluated := QuotedScript.evaluation_mergingDetector
  have passed := QuotedScript.mergingDetector.pass_singleton_of_ok _ _ evaluated
  have listed : ("naming", QuotedScript.mergedDetection) ∈
      (DetectionResult.ofEvaluations [QuotedScript.mergingDetector.evaluation QuotedScript.engine
        QuotedScript.addressed QuotedScript.namingPlugin]).detections := by
    simp only [DetectionResult.ofEvaluations, List.filterMap_cons, Evaluation.detection?, evaluated]
    exact List.mem_cons_self
  exact ⟨_, passed, listed, detect_clean passed listed⟩

end Fingerprint
