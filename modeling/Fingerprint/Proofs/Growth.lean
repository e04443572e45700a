import Fingerprint.Proofs.Noninterference
import Fingerprint.Proofs.Provenance

/-!
What is found if more of a transaction was captured.

Each matcher finds in a fuller field what it found before and possibly more behind it. So the
evidence of a plugin without script matchers is kept in its order, possibly with other records in
between, and no value that was reported is lost. The values may be in another order, since fields
that were missing come before others.
-/

set_option autoImplicit false

namespace Fingerprint

/-! ### More data -/

/-- Whether a value holds all that another one holds: it is the same text, or the same headers with
any further ones behind them. -/
inductive FieldValue.ExtendedBy : FieldValue → FieldValue → Prop
  | text (text : String) : ExtendedBy (.text text) (.text text)
  | headers (headers further : List (String × String)) :
    ExtendedBy (.headers headers) (.headers (headers ++ further))

/-- Whether a transaction keeps all that another one has. What the other one lacks it may have. -/
structure Transaction.ExtendedBy (transaction fuller : Transaction) : Prop where
  url : ∀ url, transaction.url = some url → fuller.url = some url
  body : ∀ body, transaction.body = some body → fuller.body = some body
  headers : ∀ headers, transaction.headers = some headers →
    ∃ further, fuller.headers = some (headers ++ further)

namespace Transaction.ExtendedBy

variable {transaction fuller : Transaction} (extended : transaction.ExtendedBy fuller)

include extended

theorem field? {field : Field} {value : FieldValue}
    (present : transaction.field? field = some value) :
    ∃ more, fuller.field? field = some more ∧ value.ExtendedBy more := by
  cases field with
  | url =>
    obtain ⟨url, known, rfl⟩ := Option.map_eq_some_iff.mp present
    refine ⟨.text url, ?_, .text url⟩
    rw [Transaction.field?, extended.url url known, Option.map_some]
  | body =>
    obtain ⟨body, known, rfl⟩ := Option.map_eq_some_iff.mp present
    refine ⟨.text body, ?_, .text body⟩
    rw [Transaction.field?, extended.body body known, Option.map_some]
  | header =>
    obtain ⟨headers, known, rfl⟩ := Option.map_eq_some_iff.mp present
    obtain ⟨further, longer⟩ := extended.headers headers known
    refine ⟨.headers (headers ++ further), ?_, .headers headers further⟩
    rw [Transaction.field?, longer, Option.map_some]

theorem hasField {field : Field} (present : transaction.hasField field) :
    fuller.hasField field := by
  obtain ⟨value, known⟩ := Option.isSome_iff_exists.mp present
  obtain ⟨more, found, _⟩ := extended.field? known
  exact Option.isSome_iff_exists.mpr ⟨more, found⟩

/-- No field is missing that was not missing before. -/
theorem missingFields_subset (plugin : Plugin) :
    plugin.missingFields fuller ⊆ plugin.missingFields transaction := by
  intro field missing
  simp only [Plugin.missingFields, List.mem_eraseDups, List.mem_filter] at missing ⊢
  obtain ⟨declared, absent⟩ := missing
  refine ⟨declared, ?_⟩
  rw [Bool.not_eq_true'] at absent ⊢
  rw [Bool.eq_false_iff] at absent ⊢
  exact fun present => absent (extended.hasField present)

end Transaction.ExtendedBy

/-! ### More fragments -/

theorem prefix_extractVersions {first second : List Fragment} (longer : first <+: second) :
    extractVersions first <+: extractVersions second := by
  obtain ⟨further, rfl⟩ := longer
  rw [extractVersions_append]
  exact prefix_foldl_pushDistinct _ _

theorem prefix_extractNames {first second : List Fragment} (longer : first <+: second) :
    extractNames first <+: extractNames second := by
  obtain ⟨further, rfl⟩ := longer
  rw [extractNames_append]
  exact prefix_foldl_pushDistinct _ _

/-- More fragments of the same matcher leave further records behind those that are there. -/
theorem Observation.prefix_evidence (category : Category) (field : Field) (matcher : Nat)
    {first second : List Fragment} (longer : first <+: second) :
    (Observation.mk category field matcher first).evidence <+:
      (Observation.mk category field matcher second).evidence := by
  cases category with
  | matchers => exact (prefix_extractVersions longer).map _
  | modularMatchers => exact (prefix_extractNames longer).map _
  | indicators =>
    cases first with
    | nil => exact List.nil_prefix
    | cons fragment rest =>
      cases second with
      | nil => exact absurd (List.prefix_nil.mp longer) (List.cons_ne_nil _ _)
      | cons => exact List.prefix_refl _

namespace Plugin

/-- Every header is looked at by itself, so further headers add captures behind the others. -/
theorem Matcher.prefix_captures (matcher : Matcher) {value more : FieldValue}
    (extended : value.ExtendedBy more) : matcher.captures value <+: matcher.captures more := by
  cases extended with
  | text text => exact List.prefix_refl _
  | headers headers further =>
    cases target : matcher.target with
    | text pattern =>
      simp only [captures, target]
      exact List.prefix_refl _
    | header name pattern =>
      simp only [captures, target, List.flatMap_append]
      exact List.prefix_append _ _

theorem Matcher.prefix_apply (matcher : Matcher) (index : Nat) {value more : FieldValue}
    (extended : value.ExtendedBy more) : matcher.apply index value <+: matcher.apply index more :=
  (matcher.prefix_captures extended).map _

theorem evidence_observationsAt_sublist (plugin : Plugin) {transaction fuller : Transaction}
    (extended : transaction.ExtendedBy fuller) (category : Category) (field : Field) :
    ((plugin.observationsAt transaction category field).flatMap (·.evidence)).Sublist
      ((plugin.observationsAt fuller category field).flatMap (·.evidence)) := by
  cases present : transaction.field? field with
  | none =>
    simp only [observationsAt, present, Option.toList_none, List.flatMap_nil]
    exact List.nil_sublist _
  | some value =>
    obtain ⟨more, found, longer⟩ := extended.field? present
    simp only [observationsAt, present, found, Option.toList_some, List.flatMap_singleton, observe,
      List.flatMap_map]
    apply List.Sublist.flatMap_right
    rintro ⟨matcher, index⟩ _
    have fragments := matcher.prefix_apply index longer
    exact (Observation.prefix_evidence category field index fragments).sublist

/-- All that was recorded is still recorded, in the same order. -/
theorem evidence_sublist (plugin : Plugin) {transaction fuller : Transaction}
    (extended : transaction.ExtendedBy fuller) :
    (plugin.fieldFindings transaction).evidence.Sublist (plugin.fieldFindings fuller).evidence := by
  simp only [fieldFindings_evidence, observations, List.flatMap_assoc]
  apply List.Sublist.flatMap_right
  intro category _
  apply List.Sublist.flatMap_right
  intro field _
  exact plugin.evidence_observationsAt_sublist extended category field

end Plugin

/-! ### More detections -/

theorem valuesIn_subset {evidence more : List Evidence} (kept : evidence ⊆ more)
    (category : Category) : valuesIn category evidence ⊆ valuesIn category more := by
  intro value member
  obtain ⟨field, matcher, recorded⟩ := mem_valuesIn_iff.mp member
  exact mem_valuesIn_iff.mpr ⟨field, matcher, kept recorded⟩

/-- What the findings in fields amount to still amounts to something with more of them. -/
theorem Plugin.resolve_of_extended (plugin : Plugin) {transaction fuller : Transaction}
    (extended : transaction.ExtendedBy fuller) {precedence : ScriptPrecedence}
    {detection : Detection}
    (resolved : (plugin.fieldFindings transaction).resolve precedence = some detection) :
    ∃ more, (plugin.fieldFindings fuller).resolve precedence = some more ∧
      detection.evidence.Sublist more.evidence ∧ detection.versions ⊆ more.versions ∧
      detection.names ⊆ more.names := by
  have kept := plugin.evidence_sublist extended
  rw [plugin.resolve_fieldFindings] at resolved ⊢
  by_cases nothing : (plugin.fieldFindings transaction).evidence = []
  · rw [if_pos nothing] at resolved
    cases resolved
  · rw [if_neg nothing] at resolved
    cases resolved
    have stillInhabited : (plugin.fieldFindings fuller).evidence ≠ [] := by
      intro empty
      rw [empty] at kept
      exact nothing (List.sublist_nil.mp kept)
    rw [if_neg stillInhabited]
    exact ⟨_, rfl, kept, valuesIn_subset kept.subset .matchers,
      valuesIn_subset kept.subset .modularMatchers⟩

/-- More captured data never hides a technology: a plugin without script matchers that is detected
is still detected, with all the evidence in its order, all versions and all names, and no further
field is missing. -/
theorem Detector.detectPlugin_of_extended (detector : Detector) (engine : ScriptEngine)
    {plugin : Plugin} (unscripted : plugin.scriptMatchers = []) {transaction fuller : Transaction}
    (extended : transaction.ExtendedBy fuller) :
    ∃ result more, detector.detectPlugin engine transaction plugin = .ok result ∧
      detector.detectPlugin engine fuller plugin = .ok more ∧
      (∀ name detection, result.get? name = some detection →
        ∃ fullerDetection, more.get? name = some fullerDetection ∧
          detection.evidence.Sublist fullerDetection.evidence ∧
          detection.versions ⊆ fullerDetection.versions ∧
          detection.names ⊆ fullerDetection.names) ∧
      more.missingFields ⊆ result.missingFields := by
  have before := detector.evaluation_of_no_scripts engine transaction unscripted
  have after := detector.evaluation_of_no_scripts engine fuller unscripted
  refine ⟨_, _, detector.pass_singleton_of_ok engine transaction before,
    detector.pass_singleton_of_ok engine fuller after, ?_, ?_⟩
  · intro name detection reported
    rw [DetectionResult.get?_ofEvaluations_singleton before] at reported
    split at reported
    next own =>
      obtain ⟨more, found, kept⟩ := plugin.resolve_of_extended extended reported
      refine ⟨more, ?_, kept⟩
      rw [DetectionResult.get?_ofEvaluations_singleton after, found]
      exact if_pos own
    next => cases reported
  · simp only [DetectionResult.ofEvaluations, List.flatMap_singleton]
    exact List.map_subset _ (extended.missingFields_subset plugin)

/-! ### An example -/

namespace DigitPage

/-- Looks for versions in the address and in the header `server`. -/
def mixedPlugin : Plugin where
  name := "mixed"
  homepage := none
  tags := []
  matchers :=
    ⟨⟨[matcher], [], [⟨.header serverName (some versionDigit), .group 1, none⟩]⟩, .empty, .empty⟩
  scriptMatchers := []

/-- A response of which only one header was captured. -/
def sketched : Transaction := ⟨none, none, some [("Server", "v7")]⟩

/-- The same response with its address and a further header. -/
def captured : Transaction := ⟨some "v1", none, some [("Server", "v7"), ("server", "v8")]⟩

def sketchedDetection : Detection := ⟨["7"], [], [⟨.field .header .matchers, 0, some "7"⟩]⟩

theorem detectPlugin_sketched :
    (Detector.standard .empty).detectPlugin engine sketched mixedPlugin =
      .ok ⟨[("mixed", sketchedDetection)], [], [⟨"mixed", .url⟩]⟩ := by
  cbv

end DigitPage

theorem Detector.detectPlugin_of_extended_captured :
    let detector : Detector := .standard .empty
    DigitPage.mixedPlugin.scriptMatchers = [] ∧
    DigitPage.sketched.ExtendedBy DigitPage.captured ∧
    ∃ more detection,
      detector.detectPlugin DigitPage.engine DigitPage.captured DigitPage.mixedPlugin = .ok more ∧
      more.get? "mixed" = some detection ∧
      DigitPage.sketchedDetection.evidence.Sublist detection.evidence ∧
      "7" ∈ detection.versions ∧ more.missingFields ⊆ [⟨"mixed", .url⟩] := by
  intro detector
  have unscripted : DigitPage.mixedPlugin.scriptMatchers = [] := rfl
  have extended : DigitPage.sketched.ExtendedBy DigitPage.captured := by
    refine ⟨nofun, nofun, fun headers known => ⟨[("server", "v8")], ?_⟩⟩
    cases known
    rfl
  obtain ⟨result, more, passed, fullerPassed, kept, missing⟩ :=
    detectPlugin_of_extended detector DigitPage.engine unscripted extended
  cases passed.symm.trans DigitPage.detectPlugin_sketched
  obtain ⟨detection, reported, evidence, versions, _⟩ := kept "mixed" _ rfl
  exact ⟨unscripted, extended, more, detection, fullerPassed, reported, evidence,
    versions (List.mem_singleton_self "7"), missing⟩

end Fingerprint
