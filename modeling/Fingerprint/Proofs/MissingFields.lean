import Fingerprint.Proofs.Isolation
import Fingerprint.Proofs.Noninterference

/-!
Which missing fields are reported.

The fields with matchers are visited category by category, so a field can be visited several times.
The first visit to a field that the transaction lacks leaves a notice and later ones do not,
whatever is found elsewhere. A pass reports the notices of its plugins one plugin after the other,
and no others.
-/

set_option autoImplicit false

namespace Fingerprint

namespace Plugin

/-! ### Visits -/

/-- The fields with matchers as they are visited: those of one category after those of the other. -/
def visits (plugin : Plugin) : List Field := Category.all.flatMap plugin.fields

/-- Notes a field that the transaction lacks, unless it is among those that have been noted. -/
def visit (transaction : Transaction) (missed : List Field) (field : Field) : List Field :=
  if transaction.hasField field ∨ field ∈ missed then missed else missed ++ [field]

/-- The fields that have been noted once those of all categories have been visited. -/
def scan (plugin : Plugin) (transaction : Transaction) : List Field :=
  Category.all.foldl
    (fun missed category => (plugin.fields category).foldl (visit transaction) missed) []

theorem mem_visits {plugin : Plugin} {field : Field} :
    field ∈ plugin.visits ↔ plugin.Declares field := by
  simp only [visits, List.mem_flatMap, Category.mem_all, true_and, Declares]

theorem scan_eq_foldl (plugin : Plugin) (transaction : Transaction) :
    plugin.scan transaction = plugin.visits.foldl (visit transaction) [] :=
  List.foldl_flatMap.symm

/-- Whether those fields have been noted that were visited and are missing, in the order of the
first visits. -/
structure Noted (transaction : Transaction) (visited missed : List Field) : Prop where
  mem (field : Field) : field ∈ missed ↔ field ∈ visited ∧ ¬ transaction.hasField field
  ordered : missed.Pairwise fun first second => visited.idxOf first < visited.idxOf second

variable {transaction : Transaction} {visited missed : List Field}

theorem Noted.nil (transaction : Transaction) : Noted transaction [] [] :=
  ⟨fun _ => ⟨nofun, nofun⟩, .nil⟩

/-- No field is noted twice, since its first visit does not come before itself. -/
theorem Noted.nodup (noted : Noted transaction visited missed) : missed.Nodup :=
  noted.ordered.imp fun {first second} earlier same => by
    rw [same] at earlier
    exact Nat.lt_irrefl _ earlier

theorem Noted.visit (noted : Noted transaction visited missed) (field : Field) :
    Noted transaction (visited ++ [field]) (visit transaction missed field) := by
  -- A visit at the end is the first one of no field that has been visited.
  have kept : missed.Pairwise fun first second =>
      (visited ++ [field]).idxOf first < (visited ++ [field]).idxOf second := by
    refine noted.ordered.imp_of_mem fun {first second} firstMissed secondMissed earlier => ?_
    rwa [List.idxOf_append_of_mem ((noted.mem first).mp firstMissed).1,
      List.idxOf_append_of_mem ((noted.mem second).mp secondMissed).1]
  rw [Plugin.visit]
  split
  next passed =>
    refine ⟨fun other => ?_, kept⟩
    rw [noted.mem, List.mem_append, List.mem_singleton]
    refine ⟨fun missing => ⟨.inl missing.1, missing.2⟩, ?_⟩
    rintro ⟨before | rfl, lacking⟩
    · exact ⟨before, lacking⟩
    · exact (noted.mem other).mp (passed.resolve_left lacking)
  next new =>
    obtain ⟨lacking, unnoted⟩ := not_or.mp new
    have first : field ∉ visited := fun before => unnoted ((noted.mem field).mpr ⟨before, lacking⟩)
    refine ⟨fun other => ?_, List.pairwise_append.mpr ⟨kept, List.pairwise_singleton _ _, ?_⟩⟩
    · rw [List.mem_append, noted.mem, List.mem_append, List.mem_singleton]
      constructor
      · rintro (⟨before, missing⟩ | rfl)
        · exact ⟨.inl before, missing⟩
        · exact ⟨.inr rfl, lacking⟩
      · rintro ⟨before | same, missing⟩
        · exact .inl ⟨before, missing⟩
        · exact .inr same
    · intro earlier member last same
      rw [List.mem_singleton.mp same, List.idxOf_append_of_mem ((noted.mem earlier).mp member).1,
        List.idxOf_append_of_notMem first]
      exact Nat.lt_add_right _ (List.idxOf_lt_length_of_mem ((noted.mem earlier).mp member).1)

theorem Noted.visitAll (noted : Noted transaction visited missed) (fields : List Field) :
    Noted transaction (visited ++ fields) (fields.foldl (Plugin.visit transaction) missed) := by
  induction fields generalizing visited missed with
  | nil => rwa [List.append_nil]
  | cons field rest ih =>
    have further := ih (noted.visit field)
    rwa [List.append_assoc, List.singleton_append] at further

theorem noted_scan (plugin : Plugin) (transaction : Transaction) :
    Noted transaction plugin.visits (plugin.scan transaction) := by
  rw [scan_eq_foldl]
  exact (Noted.nil transaction).visitAll plugin.visits

theorem foldl_visit_eq (transaction : Transaction) (fields : List Field) :
    fields.foldl (visit transaction) [] =
      (fields.filter fun field => !transaction.hasField field).eraseDups := by
  induction fields using List.reverseRecOn with
  | nil => rfl
  | append_singleton front last ih =>
    rw [List.foldl_append, ih, List.filter_append]
    change visit transaction _ last = _
    rw [visit]
    by_cases present : transaction.hasField last
    · rw [if_pos (.inl present), List.filter_cons_of_neg (by simp [present]), List.filter_nil,
        List.append_nil]
    · rw [List.filter_cons_of_pos (by simp [present]), List.filter_nil, eraseDups_concat]
      simp only [present, List.mem_eraseDups, Bool.false_eq_true, false_or]

/-- A plugin misses the fields that are noted in a scan. -/
theorem missingFields_eq_scan (plugin : Plugin) (transaction : Transaction) :
    plugin.missingFields transaction = plugin.scan transaction := by
  have visited : plugin.declared.map (·.2) = plugin.visits := by
    simp only [declared, visits, List.map_flatMap, List.map_map, Function.comp_def, List.map_id']
  rw [missingFields, visited, scan_eq_foldl, foldl_visit_eq]

theorem fragments_eq_error_iff {plugin : Plugin} {field : Field} {category : Category} :
    plugin.fragments transaction field category = .error (.fieldMissing field) ↔
      ¬ transaction.hasField field := by
  rw [fragments, Transaction.field, Transaction.hasField]
  cases transaction.field? field with
  | none => exact ⟨fun _ => Bool.false_ne_true, fun _ => rfl⟩
  | some value =>
    refine ⟨fun failed => ?_, fun absent => absurd rfl absent⟩
    cases failed

end Plugin

/-! ### Notices of a pass -/

namespace Detector

variable (detector : Detector) (engine : ScriptEngine) {transaction : Transaction}
  {plugins : List Plugin} {result : DetectionResult}

theorem missingFields_of_pass (passed : detector.pass engine transaction plugins = .ok result) :
    result.missingFields = plugins.flatMap fun plugin =>
      (plugin.missingFields transaction).map (⟨plugin.name, ·⟩) := by
  rw [pass_eq] at passed
  split at passed
  · cases passed
  · cases passed
    exact List.flatMap_map _ _ _

theorem missingFieldsOf_of_pass (passed : detector.pass engine transaction plugins = .ok result)
    (distinct : plugins.Pairwise (·.name ≠ ·.name)) {plugin : Plugin} (member : plugin ∈ plugins) :
    result.missingFieldsOf plugin.name = plugin.missingFields transaction := by
  have alone := detector.pass_singleton_eq_about engine transaction passed distinct member
  have own := detector.missingFields_of_pass engine alone
  rw [List.flatMap_singleton] at own
  change (result.about plugin.name).missingFields.map (·.field) = _
  rw [own, List.map_map]
  exact List.map_id _

/-- The notices of a pass over a catalog are exact. Under the name of each plugin, whether it is
detected, omitted or fails, those fields are reported that it has matchers for and that the pipeline
of any category misses, each once and in the order of the first visits. The notices are grouped by
plugins in the order of the bytes of their names, there are no others, and they are the same under
all settings and with every engine. -/
theorem missingFields_exact (transaction : Transaction) :
    (detector.config.scriptLimits.timeLimit.reachableFrom engine.now →
      ∃ result, detector.detect engine transaction = .ok result) ∧
    ∀ result, detector.detect engine transaction = .ok result →
      (∀ plugin ∈ detector.catalog.plugins,
        let missed := result.missingFieldsOf plugin.name
        missed = plugin.scan transaction ∧ missed.Nodup ∧
        (∀ field category, field ∈ missed ↔ plugin.Declares field ∧
          plugin.fragments transaction field category = .error (.fieldMissing field)) ∧
        missed.Pairwise fun first second =>
          plugin.visits.idxOf first < plugin.visits.idxOf second) ∧
      result.missingFields = detector.catalog.plugins.flatMap (fun plugin =>
        (result.missingFieldsOf plugin.name).map (⟨plugin.name, ·⟩)) ∧
      (detector.catalog.plugins.map fun plugin => Text.encode plugin.name).Pairwise (· < ·) ∧
      ∀ config otherEngine other,
        (Detector.mk detector.catalog config).detect otherEngine transaction = .ok other →
          other.missingFields = result.missingFields := by
  refine ⟨fun reachable => detector.pass_completes engine transaction reachable _,
    fun result passed => ?_⟩
  have missedBy : ∀ plugin ∈ detector.catalog.plugins,
      result.missingFieldsOf plugin.name = plugin.missingFields transaction := fun plugin member =>
    detector.missingFieldsOf_of_pass engine passed detector.catalog.names_distinct member
  have noticed := detector.missingFields_of_pass engine passed
  refine ⟨fun plugin member => ?_, ?_, detector.catalog.encoded_ascending, ?_⟩
  · intro missed
    have scanned : missed = plugin.scan transaction :=
      (missedBy plugin member).trans (plugin.missingFields_eq_scan transaction)
    have noted := plugin.noted_scan transaction
    rw [← scanned] at noted
    refine ⟨scanned, noted.nodup, fun field category => ?_, noted.ordered⟩
    rw [noted.mem, Plugin.mem_visits, Plugin.fragments_eq_error_iff]
  · rw [noticed]
    refine List.flatMap_congr fun plugin member => ?_
    rw [missedBy plugin member]
  · intro config otherEngine other otherPassed
    exact (Detector.missingFields_of_pass _ otherEngine otherPassed).trans noticed.symm

end Detector

namespace DigitPage

/-- Looks at the headers for versions and presence, and in between for names in the address. -/
def scatteredPlugin : Plugin where
  name := "scattered"
  homepage := none
  tags := []
  matchers :=
    ⟨⟨[], [], [⟨.header serverName (some versionDigit), .group 1, none⟩]⟩, ⟨[matcher], [], []⟩,
      ⟨[], [matcher], [⟨.header serverName none, .whole, none⟩]⟩⟩
  scriptMatchers := []

def scatteredDetector : Detector := .standard (.insert .empty scatteredPlugin)

end DigitPage

/-- The order is not that of the fields, but that of the categories in which they come first. -/
theorem Detector.missingFields_exact_scattered :
    ∃ result,
      DigitPage.scatteredDetector.detect DigitPage.engine .empty = .ok result ∧
      result.missingFieldsOf "scattered" = [.header, .url, .body] ∧
      result.missingFields =
        [⟨"scattered", .header⟩, ⟨"scattered", .url⟩, ⟨"scattered", .body⟩] := by
  have reachable : DigitPage.scatteredDetector.config.scriptLimits.timeLimit.reachableFrom
      DigitPage.engine.now := by
    decide
  obtain ⟨completes, exact⟩ :=
    DigitPage.scatteredDetector.missingFields_exact DigitPage.engine .empty
  obtain ⟨result, passed⟩ := completes reachable
  obtain ⟨each, grouped, -, -⟩ := exact result passed
  have missed : result.missingFieldsOf "scattered" = [.header, .url, .body] :=
    (each DigitPage.scatteredPlugin List.mem_cons_self).1.trans rfl
  refine ⟨result, passed, missed, grouped.trans ?_⟩
  change (result.missingFieldsOf "scattered").map _ ++ [] = _
  rw [missed]
  rfl

end Fingerprint
