import Fingerprint.Proofs.Noninterference
import Fingerprint.Proofs.Provenance

/-!
What the order of the headers decides.

Every header is looked at by itself, so in another order of the headers a matcher finds the same
fragments in another order. Of equal values only the first is kept, at the place where it comes
first; which one that is depends on the order, but not which values there are. So the records of a
matcher, the evidence of a plugin and the values that are reported of it are the same up to their
order, too.
-/

set_option autoImplicit false

namespace Fingerprint

/-! ### The same in another order -/

/-- Whether two values of a field differ at most in the order of headers. -/
inductive FieldValue.Reordered : FieldValue → FieldValue → Prop
  | text (text : String) : Reordered (.text text) (.text text)
  | headers {first second : List (String × String)} (permuted : first.Perm second) :
    Reordered (.headers first) (.headers second)

/-- Whether two transactions differ at most in the order of their headers. -/
structure Transaction.Reordered (first second : Transaction) : Prop where
  url : first.url = second.url
  body : first.body = second.body
  headers : Option.Rel List.Perm first.headers second.headers

/-- Whether two detections differ at most in the order of what they list. -/
structure Detection.Reordered (first second : Detection) : Prop where
  versions : first.versions.Perm second.versions
  names : first.names.Perm second.names
  evidence : first.evidence.Perm second.evidence

namespace Transaction.Reordered

variable {first second : Transaction} (reordered : first.Reordered second)

include reordered

theorem field? (field : Field) :
    Option.Rel FieldValue.Reordered (first.field? field) (second.field? field) := by
  cases field with
  | url =>
    simp only [Transaction.field?, reordered.url]
    cases second.url with
    | none => exact .none
    | some url => exact .some (.text url)
  | body =>
    simp only [Transaction.field?, reordered.body]
    cases second.body with
    | none => exact .none
    | some body => exact .some (.text body)
  | header =>
    have listed := reordered.headers
    simp only [Transaction.field?]
    generalize first.headers = headers, second.headers = others at listed ⊢
    cases listed with
    | none => exact .none
    | some permuted => exact .some (.headers permuted)

theorem hasField (field : Field) : first.hasField field = second.hasField field := by
  have related := reordered.field? field
  simp only [Transaction.hasField]
  generalize first.field? field = value, second.field? field = other at related ⊢
  cases related with
  | none => rfl
  | some _ => rfl

theorem missingFields (plugin : Plugin) :
    plugin.missingFields first = plugin.missingFields second := by
  simp only [Plugin.missingFields, reordered.hasField]

end Transaction.Reordered

/-! ### Distinct values -/

/-- Which of equal values is kept depends on the order, but not which values there are. -/
theorem perm_distinctNonEmpty {candidates others : List String}
    (permuted : candidates.Perm others) :
    (distinctNonEmpty candidates).Perm (distinctNonEmpty others) := by
  refine (List.perm_ext_iff_of_nodup (nodup_distinctNonEmpty _) (nodup_distinctNonEmpty _)).mpr ?_
  intro value
  rw [mem_distinctNonEmpty, mem_distinctNonEmpty, permuted.mem_iff]

theorem perm_extractVersions {first second : List Fragment} (permuted : first.Perm second) :
    (extractVersions first).Perm (extractVersions second) :=
  perm_distinctNonEmpty (permuted.filterMap _)

theorem perm_extractNames {first second : List Fragment} (permuted : first.Perm second) :
    (extractNames first).Perm (extractNames second) :=
  perm_distinctNonEmpty (permuted.filterMap _)

theorem perm_valuesIn {evidence others : List Evidence} (permuted : evidence.Perm others)
    (category : Category) : (valuesIn category evidence).Perm (valuesIn category others) := by
  refine (List.perm_ext_iff_of_nodup (nodup_valuesIn _ _) (nodup_valuesIn _ _)).mpr ?_
  intro value
  simp only [mem_valuesIn_iff, permuted.mem_iff]

/-- The fragments of a matcher in another order leave its records in another order. -/
theorem Observation.perm_evidence (category : Category) (field : Field) (matcher : Nat)
    {first second : List Fragment} (permuted : first.Perm second) :
    (Observation.mk category field matcher first).evidence.Perm
      (Observation.mk category field matcher second).evidence := by
  cases category with
  | matchers => exact (perm_extractVersions permuted).map _
  | modularMatchers => exact (perm_extractNames permuted).map _
  | indicators =>
    have none : first.isEmpty = second.isEmpty := permuted.isEmpty_eq
    simp only [Observation.evidence, none]
    exact List.Perm.refl _

/-! ### Plugins -/

namespace Plugin

/-- Every header is looked at by itself, so their captures are in the order of the headers. -/
theorem Matcher.perm_captures (matcher : Matcher) {value other : FieldValue}
    (reordered : value.Reordered other) :
    (matcher.captures value).Perm (matcher.captures other) := by
  cases reordered with
  | text text => exact List.Perm.refl _
  | headers permuted =>
    cases target : matcher.target with
    | text pattern =>
      simp only [captures, target]
      exact List.Perm.refl _
    | header name pattern =>
      simp only [captures, target]
      exact permuted.flatMap_right _

theorem Matcher.perm_apply (matcher : Matcher) (index : Nat) {value other : FieldValue}
    (reordered : value.Reordered other) :
    (matcher.apply index value).Perm (matcher.apply index other) :=
  (matcher.perm_captures reordered).map _

variable (plugin : Plugin) {first second : Transaction}

theorem perm_evidence_observationsAt (reordered : first.Reordered second) (category : Category)
    (field : Field) :
    ((plugin.observationsAt first category field).flatMap (·.evidence)).Perm
      ((plugin.observationsAt second category field).flatMap (·.evidence)) := by
  have related := reordered.field? field
  simp only [observationsAt]
  generalize first.field? field = value, second.field? field = other at related ⊢
  cases related with
  | none => exact List.Perm.refl _
  | some values =>
    simp only [Option.toList_some, List.flatMap_singleton, observe, List.flatMap_map]
    apply List.Perm.flatMap_left
    intro entry _
    exact Observation.perm_evidence category field entry.2 (entry.1.perm_apply entry.2 values)

/-- The same is recorded, though not in the same order. -/
theorem perm_evidence (reordered : first.Reordered second) :
    (plugin.fieldFindings first).evidence.Perm (plugin.fieldFindings second).evidence := by
  simp only [fieldFindings_evidence, observations, List.flatMap_assoc]
  apply List.Perm.flatMap_left
  intro category _
  apply List.Perm.flatMap_left
  intro field _
  exact plugin.perm_evidence_observationsAt reordered category field

theorem resolve_of_reordered (reordered : first.Reordered second)
    (precedence : ScriptPrecedence) :
    Option.Rel Detection.Reordered ((plugin.fieldFindings first).resolve precedence)
      ((plugin.fieldFindings second).resolve precedence) := by
  have permuted := plugin.perm_evidence reordered
  have empty : (plugin.fieldFindings first).evidence = [] ↔
      (plugin.fieldFindings second).evidence = [] := by
    rw [← List.isEmpty_iff, ← List.isEmpty_iff, permuted.isEmpty_eq]
  rw [resolve_fieldFindings, resolve_fieldFindings]
  by_cases nothing : (plugin.fieldFindings second).evidence = []
  · rw [if_pos nothing, if_pos (empty.mpr nothing)]
    exact .none
  · rw [if_neg nothing, if_neg (mt empty.mp nothing)]
    exact .some ⟨perm_valuesIn permuted _, perm_valuesIn permuted _, permuted⟩

end Plugin

/-- The order of the headers decides about order only. A plugin without script matchers is detected
behind headers in one order if it is in the other, with the same evidence, versions and names up to
their order, with the same missing fields, and without a fault. -/
theorem Detector.detectPlugin_of_reordered (detector : Detector) (engine : ScriptEngine)
    {plugin : Plugin} (unscripted : plugin.scriptMatchers = []) {first second : Transaction}
    (reordered : first.Reordered second) :
    ∃ result other, detector.detectPlugin engine first plugin = .ok result ∧
      detector.detectPlugin engine second plugin = .ok other ∧
      (∀ name, Option.Rel Detection.Reordered (result.get? name) (other.get? name)) ∧
      result.missingFields = other.missingFields ∧ result.faults = [] ∧ other.faults = [] := by
  have before := detector.evaluation_of_no_scripts engine first unscripted
  have after := detector.evaluation_of_no_scripts engine second unscripted
  refine ⟨_, _, detector.pass_singleton_of_ok engine first before,
    detector.pass_singleton_of_ok engine second after, ?_, ?_, ?_, ?_⟩
  · intro name
    rw [DetectionResult.get?_ofEvaluations_singleton before,
      DetectionResult.get?_ofEvaluations_singleton after]
    change Option.Rel _ (if plugin.name = name then _ else _) (if plugin.name = name then _ else _)
    by_cases own : plugin.name = name
    · rw [if_pos own, if_pos own]
      exact plugin.resolve_of_reordered reordered _
    · rw [if_neg own, if_neg own]
      exact .none
  · simp only [DetectionResult.ofEvaluations, List.flatMap_singleton]
    exact congrArg (List.map (MissingField.mk plugin.name)) (reordered.missingFields plugin)
  · simp only [DetectionResult.ofEvaluations, List.filterMap_cons, Evaluation.fault?, before,
      List.filterMap_nil]
  · simp only [DetectionResult.ofEvaluations, List.filterMap_cons, Evaluation.fault?, after,
      List.filterMap_nil]

/-! ### An example -/

namespace DigitPage

/-- Looks in the headers `server` for versions, for names of components and for presence, and for
versions in the address as well. -/
def headerPlugin : Plugin where
  name := "headers"
  homepage := none
  tags := []
  matchers :=
    let inServer : Plugin.Matcher := ⟨.header serverName (some versionDigit), .group 1, none⟩
    ⟨⟨[matcher], [], [inServer]⟩, ⟨[], [], [inServer]⟩,
      ⟨[], [], [⟨.header serverName none, .whole, none⟩]⟩⟩
  scriptMatchers := []

/-- A response with the same version in two headers, and another one between them. -/
def repeated : Transaction :=
  ⟨some "v8", none, some [("Server", "v7"), ("server", "v8"), ("SERVER", "v7")]⟩

/-- The same response with the headers in another order. -/
def repeatedAgain : Transaction :=
  ⟨some "v8", none, some [("server", "v8"), ("SERVER", "v7"), ("Server", "v7")]⟩

def repeatedEvidence (versions : List String) : List Evidence :=
  ⟨.field .url .matchers, 0, some "8"⟩ ::
    versions.map (⟨.field .header .matchers, 0, some ·⟩) ++
    versions.map (⟨.field .header .modularMatchers, 0, some ·⟩) ++
    [⟨.field .header .indicators, 0, none⟩]

theorem detectPlugin_repeated :
    (Detector.standard .empty).detectPlugin engine repeated headerPlugin =
      .ok ⟨[("headers", ⟨["8", "7"], ["7", "8"], repeatedEvidence ["7", "8"]⟩)], [], []⟩ := by
  cbv

end DigitPage

theorem Detector.detectPlugin_of_reordered_repeated :
    let detector : Detector := .standard .empty
    DigitPage.headerPlugin.scriptMatchers = [] ∧
    DigitPage.repeated.Reordered DigitPage.repeatedAgain ∧
    ∃ other detection,
      detector.detectPlugin DigitPage.engine DigitPage.repeatedAgain DigitPage.headerPlugin =
        .ok other ∧
      other.get? "headers" = some detection ∧ ["7", "8"].Perm detection.names ∧
      (DigitPage.repeatedEvidence ["7", "8"]).Perm detection.evidence := by
  intro detector
  have unscripted : DigitPage.headerPlugin.scriptMatchers = [] := rfl
  have reordered : DigitPage.repeated.Reordered DigitPage.repeatedAgain := by
    refine ⟨rfl, rfl, .some ?_⟩
    decide
  obtain ⟨result, other, passed, otherPassed, alike, -⟩ :=
    detector.detectPlugin_of_reordered DigitPage.engine unscripted reordered
  cases passed.symm.trans DigitPage.detectPlugin_repeated
  have own := alike "headers"
  change Option.Rel _ (some _) (other.get? "headers") at own
  cases reported : other.get? "headers" with
  | none =>
    rw [reported] at own
    cases own
  | some detection =>
    rw [reported] at own
    cases own with
    | some related =>
      exact ⟨unscripted, reordered, other, detection, otherPassed, reported, related.names,
        related.evidence⟩

end Fingerprint
